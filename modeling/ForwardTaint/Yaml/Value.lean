/-!
YAML documents as trees.  Of the way in which a scalar is written it only matters whether it stands
without quotes, because only then it can mean something else than its text, and whether a tag says
what it means.
-/

namespace ForwardTaint

/-- How a scalar is written: without quotes and by itself or behind a tag, of which it matters
whether it demands that there is no value, or in quotes or as a block. -/
inductive ScalarForm where
  | plain
  | tagged (isNull : Bool)
  | quoted
  deriving DecidableEq, Inhabited

/-- Whether a scalar stands without quotes. -/
def ScalarForm.isUnquoted (form : ScalarForm) : Bool := form != .quoted

/-- A YAML value; a mapping keeps its entries in written order, repetitions included. -/
inductive Yaml where
  | scalar (form : ScalarForm) (text : String)
  | sequence (items : List Yaml)
  | mapping (entries : List (Yaml × Yaml))
  deriving Inhabited

namespace Yaml

/-- What stands where nothing is written. -/
def empty : Yaml := .scalar .plain ""

end Yaml

end ForwardTaint
