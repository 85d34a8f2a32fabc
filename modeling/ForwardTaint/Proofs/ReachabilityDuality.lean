import ForwardTaint.Proofs.Reachability
import ForwardTaint.Proofs.SuppressedFlows

/-!
Reachability from both ends.  The search forwards from a node and the search backwards from some
targets follow the same steps, the one as they go and the other against them; both stay among the
nodes of the graph.  So a node is found from the targets exactly if a target is found from the node.
-/

namespace ForwardTaint

namespace FlowGraph

variable {graph : FlowGraph}

/-- A path from a node of the graph goes through a list of nodes of the graph. -/
theorem innerPath_iff_way {first last : Nat} :
    graph.InnerPath first last ∧ first < graph.nodes.size ↔
      ∃ way, graph.Way first way last ∧ ∀ number ∈ first :: way, number < graph.nodes.size := by
  constructor
  · rintro ⟨path, within⟩
    induction path using Relation.ReflTransGen.head_induction_on with
    | refl => exact ⟨[], .here, by simpa using within⟩
    | head inside _ inductionHypothesis =>
        obtain ⟨way, isWay, areWithin⟩ := inductionHypothesis inside.2.1
        exact ⟨_, .step inside.2.2 isWay, List.forall_mem_cons.2 ⟨within, areWithin⟩⟩
  · rintro ⟨way, isWay, areWithin⟩
    refine ⟨?_, areWithin first List.mem_cons_self⟩
    induction isWay with
    | here => exact .refl
    | step taintStep _ inductionHypothesis =>
        obtain ⟨startsWithin, rest⟩ := List.forall_mem_cons.1 areWithin
        have endsWithin := rest _ List.mem_cons_self
        exact .head ⟨startsWithin, endsWithin, taintStep⟩ (inductionHypothesis rest)

/-- There is one mark for each node of the graph, and it is set at exactly the nodes that are
meant. -/
structure MarksExactly (graph : FlowGraph) (seen : Array Bool) (isMeant : Nat → Prop) : Prop where
  size : seen.size = graph.nodes.size
  marked : ∀ node, Marked seen node ↔ isMeant node

/-- Reachability is exact in both directions.  Forwards it marks the ends of all ways of taint through
nodes of the graph, the empty way among them; backwards it marks the nodes from which the search
forwards marks a target. -/
theorem reachability_isExact (graph : FlowGraph) :
    (∀ start < graph.nodes.size, graph.MarksExactly (graph.reachableFrom start) fun node =>
      ∃ way, graph.Way start way node ∧ ∀ number ∈ way, number < graph.nodes.size) ∧
    ∀ targets, graph.MarksExactly (graph.reaching targets) fun node =>
      ∃ target ∈ targets, Marked (graph.reachableFrom node) target := by
  constructor
  · intro start within
    refine ⟨graph.size_exploreFrom _ _, fun node => ?_⟩
    calc
      Marked (graph.reachableFrom start) node
        ↔ graph.InnerPath start node ∧ start < graph.nodes.size :=
          marked_reachableFrom_iff.trans and_comm
      _ ↔ ∃ way, graph.Way start way node ∧
            ∀ number ∈ start :: way, number < graph.nodes.size := innerPath_iff_way
      _ ↔ ∃ way, graph.Way start way node ∧ ∀ number ∈ way, number < graph.nodes.size := by
          simp only [List.forall_mem_cons, within, true_and]
  · intro targets
    refine ⟨graph.size_exploreFrom _ _, fun node => ?_⟩
    rw [marked_reaching_iff]
    refine exists_congr fun target => and_congr_right fun _ => ?_
    rw [marked_reachableFrom_iff]
    exact and_congr_left fun path => (lt_size_iff_of_path path).symm

end FlowGraph

/-! The path is joined with itself in a loop, so two edges lead from it to the same call.  Behind the
loop it is forwarded to, and then put into the query string of another forward. -/

namespace RepeatedPath

def procedure : Procedure :=
  { Procedure.named "serve" with
    body := [
      .declare "path" none (some (.localCall "getParameter" [])) .zero,
      .loop (.localCall "waits" [])
        [.assign "path" (.localCall "join" [.variable "path", .variable "path"]) .zero] .zero,
      .evaluate (.localCall "forward" [.variable "path"]) .zero,
      .evaluate (.localCall "forward"
        [.concat [.literal "/login?then=", .variable "path"] .zero]) .zero] }

def graph : FlowGraph where
  procedureName := "serve"
  nodes := #[
    ⟨.sourceCall, "getParameter()", .zero, none⟩,
    ⟨.variableRef, "path = getParameter()", .zero, some "path"⟩,
    ⟨.phi, "loop path", .zero, some "path"⟩,
    ⟨.call, "waits()", .zero, none⟩,
    ⟨.call, "join(path, path)", .zero, none⟩,
    ⟨.variableRef, "path = join(path, path)", .zero, some "path"⟩,
    ⟨.sinkCall [0], "forward(path)", .zero, none⟩,
    ⟨.literal, "/login?then=", .zero, none⟩,
    ⟨.concat, "\"/login?then=\" + path", .zero, none⟩,
    ⟨.sinkCall [0], "forward(\"/login?then=\" + path)", .zero, none⟩]
  edges := [
    ⟨8, 9, .plain (.argument 0)⟩, ⟨2, 8, .plain .queryString⟩, ⟨7, 8, .plain (.concatOperand 0)⟩,
    ⟨2, 6, .plain (.argument 0)⟩, ⟨5, 2, .plain .loopBack⟩, ⟨4, 5, .plain .assign⟩,
    ⟨2, 4, .plain (.argument 1)⟩, ⟨2, 4, .plain (.argument 0)⟩, ⟨1, 2, .plain .join⟩,
    ⟨0, 1, .plain .assign⟩]
  guards := #[⟨0, "waits()", .zero, [], [], [], none⟩]
  sources := [0]
  sinks := [6, 9]

/-- From the call in the loop taint goes round to the forward of the path, and not through the query
string to the other.  The search back from both forwards comes to that call, and not to the test. -/
theorem reachability_isExact_inLoop :
    FlowGraph.build DecodingLoop.catalog .empty procedure = .ok graph ∧
    4 < graph.nodes.size ∧
    (∃ way, graph.Way 4 way 6 ∧ ∀ number ∈ way, number < graph.nodes.size) ∧
    (¬∃ way, graph.Way 4 way 9 ∧ ∀ number ∈ way, number < graph.nodes.size) ∧
    (∃ target ∈ [9, 6], FlowGraph.Marked (graph.reachableFrom 4) target) ∧
    ¬∃ target ∈ [9, 6], FlowGraph.Marked (graph.reachableFrom 3) target := by
  have within : 4 < graph.nodes.size := by decide
  obtain ⟨forwards, backwards⟩ := FlowGraph.reachability_isExact graph
  have fromCall := (forwards 4 within).marked
  have toForwards := (backwards [9, 6]).marked
  have reached : graph.reachableFrom 4 =
      #[false, false, true, false, true, true, true, false, false, false] := by decide
  have reaching : graph.reaching [9, 6] =
      #[true, true, true, false, true, true, true, true, true, true] := by decide
  refine ⟨by cbv, within, (fromCall 6).1 ?_, (fromCall 9).not.1 ?_, (toForwards 4).1 ?_,
    (toForwards 3).not.1 ?_⟩
  · rw [reached]
    rfl
  · rw [reached, FlowGraph.Marked]
    decide
  · rw [reaching]
    rfl
  · rw [reaching, FlowGraph.Marked]
    decide

end RepeatedPath

end ForwardTaint
