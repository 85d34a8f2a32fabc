import ForwardTaint.Text.Affix

/-!
Resolution of the segments `.` and `..` in paths.
-/

namespace ForwardTaint.Text

/-- The segments that stay, last first, and whether the path ends with a resolved segment. -/
def resolveSegments (kept : List (List Char)) (resolved : Bool) :
    List (List Char) → List (List Char) × Bool
  | [] => (kept, resolved)
  | segment :: rest =>
      if segment = ['.'] then resolveSegments kept rest.isEmpty rest
      else if segment = ['.', '.'] then resolveSegments kept.tail rest.isEmpty rest
      else resolveSegments (segment :: kept) false rest

/-- The path with `.` and `..` resolved; a resolved last segment leaves a slash at the end. -/
def removeDotSegments (path : List Char) : List Char :=
  let absolute := path.head? == some '/'
  let segments := segmentsOf '/' path
  let (kept, resolved) := resolveSegments [] false (if absolute then segments.tail else segments)
  (if absolute then ['/'] else []) ++ List.intercalate ['/'] kept.reverse
    ++ (if resolved && !kept.isEmpty then ['/'] else [])

end ForwardTaint.Text
