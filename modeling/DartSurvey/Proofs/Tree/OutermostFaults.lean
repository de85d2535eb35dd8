import DartSurvey.Tree.Diagnostic
import Mathlib.Data.List.Basic

/-!
# The faults that are reported

- `Node.sightings`: the nodes of a tree in pre-order, each with the nodes on the way to it from the root.
- A fault is reached if every node on the way to it is marked as having an error and is no fault itself. The
  search for faults keeps an agenda of trees; at every moment the faults it has still to find are those reached
  in the trees of the agenda, one tree after the other (`firstFaults_eq_take`).
- In a tree whose marks are right (`MarksFaults`) the faults that are reached are the outermost ones
  (`isReached_eq_isOutermost`), and a tree with a fault has an outermost one (`exists_outermost`).
- `diagnostics_eq_outermost` puts this together.
-/

namespace DartSurvey.Tree

/-- A node of a tree, with the nodes on the way to it from the root. -/
structure Sighting where
  above : List Node
  node : Node

namespace Sighting

/-- What is seen of a tree, seen from a node above it. -/
def under (n : Node) (s : Sighting) : Sighting := ⟨n :: s.above, s.node⟩

/-- Whether the search comes to a node and finds a fault there. -/
def isReached (s : Sighting) : Bool := s.node.isFault && s.above.all fun a => a.hasError && !a.isFault

/-- Whether a node is a fault with no fault above it. -/
def isOutermost (s : Sighting) : Bool := s.node.isFault && s.above.all fun a => !a.isFault

theorem isReached_under (n : Node) (s : Sighting) :
    (s.under n).isReached = (n.hasError && !n.isFault && s.isReached) := by
  simp only [isReached, under, List.all_cons]
  cases s.node.isFault <;> simp

theorem isOutermost_under (n : Node) (s : Sighting) :
    (s.under n).isOutermost = (!n.isFault && s.isOutermost) := by
  simp only [isOutermost, under, List.all_cons]
  cases s.node.isFault <;> simp

end Sighting

namespace Node

mutual

/-- The nodes of a tree in pre-order: the root, and then those of its children one after the other. -/
def sightings : Node → List Sighting
  | n@⟨_, _, _, _, _, _, _, _, _, children⟩ => ⟨[], n⟩ :: (sightingsIn children).map (Sighting.under n)

/-- The nodes of a list of trees in pre-order. -/
def sightingsIn : List Node → List Sighting
  | [] => []
  | n :: ns => sightings n ++ sightingsIn ns

end

/-- The nodes of a tree in pre-order. -/
def nodes (n : Node) : List Node := n.sightings.map (·.node)

/-- That the nodes of a tree that are marked as having an error are those that are a fault or have one below
them. -/
def MarksFaults (root : Node) : Prop :=
  ∀ n ∈ root.nodes, n.hasError = true ↔ ∃ m ∈ n.nodes, m.isFault = true

theorem sightingsIn_eq_flatMap (ns : List Node) : sightingsIn ns = ns.flatMap sightings := by
  induction ns with
  | nil => rfl
  | cons n ns ih => rw [sightingsIn, ih, List.flatMap_cons]

theorem sightings_eq (n : Node) :
    n.sightings = ⟨[], n⟩ :: (n.children.flatMap sightings).map (Sighting.under n) := by
  cases n
  rw [sightings, sightingsIn_eq_flatMap]

theorem mem_sightings {n : Node} {s : Sighting} :
    s ∈ n.sightings ↔ s = ⟨[], n⟩ ∨ ∃ c ∈ n.children, ∃ t ∈ c.sightings, s = t.under n := by
  rw [sightings_eq, List.mem_cons, List.mem_map]
  simp only [List.mem_flatMap, eq_comm (a := s)]
  constructor
  · rintro (h | ⟨t, ⟨c, hc, ht⟩, rfl⟩)
    · exact .inl h
    · exact .inr ⟨c, hc, t, ht, rfl⟩
  · rintro (h | ⟨c, hc, t, ht, rfl⟩)
    · exact .inl h
    · exact .inr ⟨t, ⟨c, hc, ht⟩, rfl⟩

/-- What holds of a tree as soon as it holds of the children of its root holds of every tree. -/
@[elab_as_elim]
theorem childrenInduction {motive : Node → Prop} (step : ∀ n, (∀ c ∈ n.children, motive c) → motive n) :
    ∀ n, motive n
  | ⟨_, _, _, _, _, _, _, _, _, children⟩ => step _ fun c hc =>
    have : c ∈ children := hc
    childrenInduction step c

/-- A node on the way to another is a node of the tree, and has the other below it. -/
theorem mem_nodes_of_mem_above {root a : Node} {s : Sighting} (hs : s ∈ root.sightings) (ha : a ∈ s.above) :
    a ∈ root.nodes ∧ s.node ∈ a.nodes := by
  induction root using childrenInduction generalizing s with
  | step root ih =>
    rcases mem_sightings.mp hs with rfl | ⟨c, hc, t, ht, rfl⟩
    · cases ha
    · rcases List.mem_cons.mp ha with rfl | ha
      · exact ⟨List.mem_map_of_mem (mem_sightings.mpr (.inl rfl)), List.mem_map_of_mem hs⟩
      · obtain ⟨hroot, hbelow⟩ := ih c hc ht ha
        obtain ⟨u, hu, rfl⟩ := List.mem_map.mp hroot
        exact ⟨List.mem_map.mpr ⟨u.under root, mem_sightings.mpr (.inr ⟨c, hc, u, hu, rfl⟩), rfl⟩, hbelow⟩

/-! ## The search -/

/-- The faults that the search reaches in a tree, in pre-order. -/
def reachedFaults (n : Node) : List Node := (n.sightings.filter Sighting.isReached).map (·.node)

/-- At a fault the search stops; at any other node it goes on below, if the node is marked. -/
theorem reachedFaults_eq (n : Node) :
    n.reachedFaults = if n.isFault then [n] else if n.hasError then n.children.flatMap reachedFaults else [] := by
  have hself : Sighting.isReached ⟨[], n⟩ = n.isFault := by simp [Sighting.isReached]
  have hbelow : ∀ s, (Sighting.isReached ∘ Sighting.under n) s = (n.hasError && !n.isFault && s.isReached) :=
    Sighting.isReached_under n
  rw [reachedFaults, sightings_eq, List.filter_cons, hself, List.filter_map, List.filter_congr fun s _ => hbelow s]
  by_cases hfault : n.isFault
  · simp [hfault]
  · by_cases hmarked : n.hasError
    · simp only [hfault, hmarked, Bool.false_eq_true, ↓reduceIte, Bool.not_false, Bool.and_true, Bool.true_and,
        List.filter_flatMap, List.map_map, List.map_flatMap]
      rfl
    · simp [hfault, hmarked]

/-- **The search.** The faults that the search finds on its agenda are the first of those reached in its trees. -/
theorem firstFaults_eq_take (limit : Nat) (agenda : List Node) :
    firstFaults limit agenda = (agenda.flatMap reachedFaults).take limit := by
  fun_induction firstFaults limit agenda with
  | case1 => simp
  | case2 => simp
  | case3 n rest limit hfault ih => simp [reachedFaults_eq n, hfault, ih]
  | case4 n rest limit hfault hmarked ih => simp [reachedFaults_eq n, hfault, hmarked, ih]
  | case5 n rest limit hfault hmarked ih => simp [reachedFaults_eq n, hfault, hmarked, ih]

/-! ## Trees with right marks -/

/-- A tree with a fault has an outermost one: the first on the way down to it. -/
theorem exists_outermost {n m : Node} (hm : m ∈ n.nodes) (hfault : m.isFault = true) :
    ∃ s ∈ n.sightings, s.isOutermost = true := by
  induction n using childrenInduction with
  | step n ih =>
    by_cases hn : n.isFault = true
    · exact ⟨⟨[], n⟩, mem_sightings.mpr (.inl rfl), by simp [Sighting.isOutermost, hn]⟩
    · obtain ⟨s, hs, rfl⟩ := List.mem_map.mp hm
      rcases mem_sightings.mp hs with rfl | ⟨c, hc, t, ht, rfl⟩
      · exact absurd hfault hn
      · have hmem : t.node ∈ c.nodes := List.mem_map_of_mem ht
        obtain ⟨u, hu, houter⟩ := ih c hc hmem
        refine ⟨u.under n, mem_sightings.mpr (.inr ⟨c, hc, u, hu, rfl⟩), ?_⟩
        simp [Sighting.isOutermost_under, hn, houter]

/-- Where the marks are right, the way to a fault leads through marked nodes only. -/
theorem isReached_eq_isOutermost {root : Node} (h : root.MarksFaults) {s : Sighting} (hs : s ∈ root.sightings) :
    s.isReached = s.isOutermost := by
  unfold Sighting.isReached Sighting.isOutermost
  cases hfault : s.node.isFault with
  | false => rfl
  | true =>
    have hmarked : ∀ a ∈ s.above, a.hasError = true := by
      intro a ha
      obtain ⟨hroot, hbelow⟩ := mem_nodes_of_mem_above hs ha
      exact (h a hroot).mpr ⟨s.node, hbelow, hfault⟩
    rw [Bool.true_and, Bool.true_and, Bool.eq_iff_iff, List.all_eq_true, List.all_eq_true]
    constructor
    · intro hall a ha
      exact (Bool.and_eq_true_iff.mp (hall a ha)).2
    · intro hall a ha
      exact Bool.and_eq_true_iff.mpr ⟨hmarked a ha, hall a ha⟩

/-- A tree with right marks has an outermost fault exactly if its root is marked. -/
theorem filter_isOutermost_ne_nil_iff {root : Node} (h : root.MarksFaults) :
    root.sightings.filter Sighting.isOutermost ≠ [] ↔ root.hasError = true := by
  rw [h root (List.mem_map_of_mem (mem_sightings.mpr (.inl rfl))), Ne, List.filter_eq_nil_iff]
  constructor
  · intro hsome
    push Not at hsome
    obtain ⟨s, hs, houter⟩ := hsome
    exact ⟨s.node, List.mem_map_of_mem hs, (Bool.and_eq_true_iff.mp houter).1⟩
  · rintro ⟨m, hm, hfault⟩ hnone
    obtain ⟨s, hs, houter⟩ := exists_outermost hm hfault
    exact hnone s hs houter

/-- **Diagnostics.** A tree whose root is not marked has no diagnostics. Any other has those of the first twenty, in
pre-order, of the faults that are reached through marked nodes that are no faults. So where the marks are right,
the diagnostics are those of the first twenty outermost faults in pre-order, and there are some exactly if the
tree has a fault. -/
theorem diagnostics_eq_outermost (root : Node) :
    (root.hasError = false → root.diagnostics = []) ∧
      (root.hasError = true →
        root.diagnostics = ((root.sightings.filter Sighting.isReached).take 20).map (·.node.faultText)) ∧
      (root.MarksFaults →
        root.diagnostics = ((root.sightings.filter Sighting.isOutermost).take 20).map (·.node.faultText) ∧
          (root.diagnostics ≠ [] ↔ ∃ n ∈ root.nodes, n.isFault = true)) := by
  have hunmarked : root.hasError = false → root.diagnostics = [] := by
    intro hmark
    simp [diagnostics, hmark]
  have hmarked : root.hasError = true →
      root.diagnostics = ((root.sightings.filter Sighting.isReached).take 20).map (·.node.faultText) := by
    intro hmark
    rw [diagnostics, if_pos hmark, firstFaults_eq_take, List.flatMap_singleton, reachedFaults, ← List.map_take,
      List.map_map]
    rfl
  refine ⟨hunmarked, hmarked, ?_⟩
  intro hright
  have hsame : root.sightings.filter Sighting.isReached = root.sightings.filter Sighting.isOutermost :=
    List.filter_congr fun s hs => isReached_eq_isOutermost hright hs
  have hsome := filter_isOutermost_ne_nil_iff hright
  have houter : root.diagnostics = ((root.sightings.filter Sighting.isOutermost).take 20).map (·.node.faultText) := by
    cases hmark : root.hasError with
    | true => rw [hmarked hmark, hsame]
    | false =>
      have hnone : root.sightings.filter Sighting.isOutermost = [] := by
        by_contra hne
        rw [hmark] at hsome
        exact absurd (hsome.mp hne) Bool.false_ne_true
      rw [hunmarked hmark, hnone]
      rfl
  refine ⟨houter, ?_⟩
  rw [← hright root (List.mem_map_of_mem (mem_sightings.mpr (.inl rfl))), ← hsome, houter]
  simp

/-- A fault below a fault is not reported, and one below a node that is marked only is. -/
theorem diagnostics_eq_outermost_nested :
    let semicolon : Node := { kind := ";", start := 9, stop := 9, missing := true, hasError := true, column := 9 }
    let unexpected : Node := { kind := "ERROR", start := 0, stop := 9, hasError := true, children := [semicolon] }
    let name : Node := { kind := "identifier", start := 12, stop := 13, row := 1, column := 2 }
    let declaration : Node :=
      { kind := "declaration", start := 10, stop := 13, hasError := true, row := 1, children := [name, semicolon] }
    let root : Node :=
      { kind := "program", start := 0, stop := 13, hasError := true, children := [unexpected, declaration] }
    root.MarksFaults ∧ root.diagnostics = ["1:1: unexpected syntax", "1:10: missing ;"] := by
  intro semicolon unexpected name declaration root
  have hmarks : root.MarksFaults := by
    unfold MarksFaults
    decide
  refine ⟨hmarks, ?_⟩
  rw [((diagnostics_eq_outermost root).2.2 hmarks).1]
  decide

end Node

end DartSurvey.Tree
