import DartSurvey.Proofs.Exclude.Patterns
import DartSurvey.Proofs.Scan.Drain
import DartSurvey.Proofs.Scan.Obstacles

/-!
# Lists of patterns in a row

Two lists of patterns, one behind the other, leave of a walk what the second leaves of what the first leaves
(`pruned_append`, `arrivalAt_append`). So the files of the joint walk are those of both walks, as far as the
walks go.

- The files of a walk that further rules spare come first in the walk with those rules too
  (`sources_pruned_begin`); they are all of its files if the further rules leave what breaks the walk off, if
  anything does (`sources_pruned_eq`). By its failure one can tell whether they do (`joint_walk_eq`).
- What two walks have in common comes first in the joint walk (`common_begin`).
- Walks see of their rules only what they match, so the order of patterns, repetitions and patterns without
  text make no difference (`drain_congr`).
- `exclusions_compose` puts this together. The joint walk can have more files than one of the walks, if it does
  not come to what breaks that walk off (`joint_walk_passes_obstacle`).
-/

namespace DartSurvey.Scan

open Disk (Path)

/-! ## Rules in a row -/

section Rules

variable (rules more : List Exclude.Rule)

theorem excludes_append (path : String) (isDirectory : Bool) :
    Exclude.excludes (rules ++ more) path isDirectory =
      (Exclude.excludes rules path isDirectory || Exclude.excludes more path isDirectory) := List.any_append

theorem reaches_append (folder : List String) :
    reaches (rules ++ more) folder = (reaches rules folder && reaches more folder) := by
  rw [Bool.eq_iff_iff]
  simp only [reaches, excludes_append, Bool.not_or, List.all_eq_true, Bool.and_eq_true]
  exact ⟨fun h => ⟨fun above ha => (h above ha).1, fun above ha => (h above ha).2⟩,
    fun h above ha => ⟨h.1 above ha, h.2 above ha⟩⟩

/-- What rules in a row leave of an encounter is what the second leave of what the first leave. -/
theorem pruned_append (x : Encounter) :
    pruned (rules ++ more) x = (pruned rules x).flatMap (pruned more) := by
  cases x with
  | source place =>
    by_cases hr : reaches rules place.dropLast = true
    · by_cases hx : Exclude.excludes rules (Walk.relative place) false = true
      · cases hmore : reaches more place.dropLast <;> simp [pruned, reaches_append, excludes_append, hr, hx, hmore]
      · simp [pruned, reaches_append, excludes_append, hr, hx]
    · simp [pruned, reaches_append, hr]
  | excluded place =>
    by_cases hr : reaches rules place.dropLast = true <;> simp [pruned, reaches_append, hr]
  | hidden e place =>
    by_cases hr : reaches rules place.dropLast = true <;> simp [pruned, reaches_append, hr]
  | barred e place =>
    by_cases hr : reaches rules place = true <;> simp [pruned, reaches_append, hr]

variable (root : Path) (disk : Disk)

/-- A walk with rules in a row comes upon what the second leave of what the walk with the first comes upon. -/
theorem arrivalAt_append :
    arrivalAt root (rules ++ more) disk [] = (arrivalAt root rules disk []).flatMap (pruned more) := by
  rw [arrivalAt_pruned root (rules ++ more), arrivalAt_pruned root rules, List.flatMap_assoc]
  apply List.flatMap_congr
  intro x _
  exact pruned_append rules more x

variable {rules more}

/-- What rules leave depends on what they match only. -/
theorem pruned_congr
    (h : ∀ path isDirectory, Exclude.excludes rules path isDirectory = Exclude.excludes more path isDirectory) :
    pruned rules = pruned more := by
  have hreaches : reaches rules = reaches more := by
    funext folder
    simp only [reaches, h]
  funext x
  cases x <;> simp only [pruned, hreaches, h]

theorem arrivalAt_congr
    (h : ∀ path isDirectory, Exclude.excludes rules path isDirectory = Exclude.excludes more path isDirectory) :
    arrivalAt root rules disk [] = arrivalAt root more disk [] := by
  rw [arrivalAt_pruned root rules, arrivalAt_pruned root more, pruned_congr h]

theorem arrivalAt_append_comm :
    arrivalAt root (rules ++ more) disk [] = arrivalAt root (more ++ rules) disk [] := by
  apply arrivalAt_congr
  intro path isDirectory
  rw [excludes_append, excludes_append, Bool.or_comm]

/-- The files of a walk are spared by its rules. -/
theorem spares_of_mem_sources {place : List String} (h : place ∈ sources (arrivalAt root rules disk [])) :
    spares rules place = true := by
  have hmem := mem_of_mem_sources h
  rw [arrivalAt_pruned] at hmem
  obtain ⟨x, _, hx⟩ := List.mem_flatMap.mp hmem
  rcases pruned_cases rules hx with ⟨rfl, _, hspares⟩ | ⟨_, _, hne⟩
  · exact hspares place rfl
  · cases hne

end Rules

/-! ## Files of joint walks -/

/-- The files of a walk that rules spare come first in the walk with those rules too. -/
theorem sources_pruned_begin (rules : List Exclude.Rule) (xs : List Encounter) :
    (sources xs).filter (spares rules) <+: sources (xs.flatMap (pruned rules)) := by
  induction xs with
  | nil => exact List.prefix_rfl
  | cons x xs ih =>
    rw [List.flatMap_cons]
    cases x with
    | source place =>
      by_cases hr : reaches rules place.dropLast = true
      · by_cases hx : Exclude.excludes rules (Walk.relative place) false = true
        · simpa [sources, pruned, spares, hr, hx] using ih
        · simpa [sources, pruned, spares, hr, hx] using ih
      · simpa [sources, pruned, spares, hr] using ih
    | excluded place =>
      by_cases hr : reaches rules place.dropLast = true
      · simpa [sources, pruned, hr] using ih
      · simpa [sources, pruned, hr] using ih
    | hidden e place => exact List.nil_prefix
    | barred e place => exact List.nil_prefix

/-- The files of the walk without rules that rules spare come first in the walk with them. -/
theorem spared_begin (root : Path) (rules : List Exclude.Rule) (disk : Disk) :
    (sources (arrivalAt root [] disk [])).filter (spares rules) <+: sources (arrivalAt root rules disk []) := by
  rw [arrivalAt_pruned root rules]
  exact sources_pruned_begin rules _

/-- A file of the walk without rules is one of the walk with rules if they spare it. -/
theorem mem_sources_iff_spares {root : Path} {disk : Disk} {place : List String}
    (h : place ∈ sources (arrivalAt root [] disk [])) (rules : List Exclude.Rule) :
    place ∈ sources (arrivalAt root rules disk []) ↔ spares rules place = true := by
  constructor
  · exact fun hmem => spares_of_mem_sources root disk hmem
  · intro hspares
    exact (spared_begin root rules disk).subset (List.mem_filter.mpr ⟨h, hspares⟩)

/-- Two beginnings of a list: what they have in common is the shorter one. -/
theorem filter_mem_begin {α : Type} [BEq α] [LawfulBEq α] {xs ys zs : List α} (hz : zs.Nodup) (hx : xs <+: zs)
    (hy : ys <+: zs) : xs.filter (· ∈ ys) <+: zs := by
  rcases List.prefix_or_prefix_of_prefix hx hy with h | h
  · rw [List.filter_eq_self.mpr fun a ha => by simpa using h.subset ha]
    exact hx
  · obtain ⟨rest, rfl⟩ := h
    have hnodup := hz.sublist hx.sublist
    have hown : ys.filter (· ∈ ys) = ys := List.filter_eq_self.mpr fun a ha => by simpa using ha
    have hrest : rest.filter (· ∈ ys) = [] := by
      rw [List.filter_eq_nil_iff]
      intro a ha hmem
      exact List.disjoint_of_nodup_append hnodup (by simpa using hmem) ha
    rw [List.filter_append, hown, hrest, List.append_nil]
    exact hy

/-- Two lists of which a third begins with what either leaves: it begins with what they have in common. -/
theorem filter_common_begin {α : Type} [BEq α] [LawfulBEq α] {xs ys zs : List α} {p q : α → Bool} (hz : zs.Nodup)
    (hx : xs.filter q <+: zs) (hy : ys.filter p <+: zs) (hp : ∀ a ∈ xs, p a = true) (hq : ∀ a ∈ ys, q a = true) :
    xs.filter (· ∈ ys) <+: zs := by
  have hcommon : xs.filter (· ∈ ys) = (xs.filter q).filter (· ∈ ys.filter p) := by
    rw [List.filter_filter]
    apply List.filter_congr
    intro a ha
    by_cases hmem : a ∈ ys
    · simp [hmem, hp a ha, hq a hmem]
    · simp [hmem]
  rw [hcommon]
  exact filter_mem_begin hz hx hy

/-- What the walks with two lists of rules have in common comes first in the walk with both. -/
theorem common_begin {disk : Disk} (hd : disk.root.WellFormed) (root : Path) (rules more : List Exclude.Rule) :
    (sources (arrivalAt root rules disk [])).filter (· ∈ sources (arrivalAt root more disk []))
      <+: sources (arrivalAt root (rules ++ more) disk []) := by
  have hleft := sources_pruned_begin more (arrivalAt root rules disk [])
  have hright := sources_pruned_begin rules (arrivalAt root more disk [])
  have hcomm : arrivalAt root (more ++ rules) disk [] = arrivalAt root (rules ++ more) disk [] :=
    arrivalAt_append_comm root disk
  rw [← arrivalAt_append] at hleft hright
  rw [hcomm] at hright
  exact filter_common_begin (apart_arrivalAt root _ disk hd).nodup hleft hright
    (fun _ hp => spares_of_mem_sources root disk hp) fun _ hp => spares_of_mem_sources root disk hp

/-- A visitor does not see the rules of its walk. -/
theorem Walk.feedEnd_rules {σ ρ : Type} (w : Walk σ ρ) (rules : List Exclude.Rule) (s : σ) (xs : List Encounter) :
    feedEnd { w with rules } s xs = w.feedEnd s xs := by
  have hfeed : feed { w with rules } s xs = w.feed s xs := by
    induction xs generalizing s with
    | nil => rfl
    | cons x xs ih =>
      have hmeet : meet { w with rules } s x = w.meet s x := by cases x <;> rfl
      rw [feed, feed, hmeet]
      cases w.meet s x with
      | goOn s => exact ih s
      | stop s r => rfl
  rw [feedEnd, feedEnd, hfeed]

/-- The path that an item is, if it is one. -/
def Item.path? : Item → Option String
  | .path p => some p
  | .record _ => none

namespace Inspector

variable (ins : Inspector) {disk : Disk}

/-- Where rules leave what breaks a walk off, if anything does, the walk with them has the files that they spare,
and ends as before. -/
theorem sources_pruned_eq (rules : List Exclude.Rule) (root : Path) {xs : List Encounter}
    (h : ∀ f, ∀ x ∈ xs, ins.obstacle? root xs = some f → ins.obstacle? root [x] = some f → pruned rules x = [x]) :
    sources (xs.flatMap (pruned rules)) = (sources xs).filter (spares rules) ∧
      ins.obstacle? root (xs.flatMap (pruned rules)) = ins.obstacle? root xs := by
  let own : Inspector := { ins with rules }
  simp only [ins.obstacle?_eq own] at h ⊢
  cases hend : own.obstacle? root xs with
  | none => exact own.sources_flatMap_pruned root hend
  | some f =>
    obtain ⟨ys, x, zs, rfl, hys, hx⟩ := own.exists_obstacle root hend
    have hleft : pruned rules x = [x] := h f x (List.mem_append_right _ List.mem_cons_self) hend hx
    obtain ⟨hstop, -⟩ := own.pruned_obstacle root hx
    obtain ⟨hsources, hnone⟩ := own.sources_flatMap_pruned root hys
    obtain ⟨happend, hrest⟩ := own.sources_append root hnone (x :: zs.flatMap (pruned rules))
    have hown : pruned own.rules = pruned rules := rfl
    rw [hown] at happend hrest hsources
    rw [List.flatMap_append, List.flatMap_cons, hleft, List.singleton_append, happend, hrest, hsources,
      (hstop _).1, (hstop _).2, (own.sources_append root hys _).1, (hstop zs).1, List.append_nil, List.append_nil]
    exact ⟨rfl, rfl⟩

variable {rules more : List Exclude.Rule}

/-- A walk that comes to its end does so with further rules, and has the files that they spare. -/
theorem joint_walk_of_clear {root : Path} (h : ins.obstacle? root (arrivalAt root rules disk []) = none)
    (more : List Exclude.Rule) :
    sources (arrivalAt root (rules ++ more) disk []) = (sources (arrivalAt root rules disk [])).filter (spares more) ∧
      ins.obstacle? root (arrivalAt root (rules ++ more) disk []) = none := by
  rw [arrivalAt_append, ← h]
  apply ins.sources_pruned_eq
  intro f x _ hf
  exact absurd (h.symm.trans hf) (Option.some_ne_none f).symm

/-- A walk that is broken off, if at all, like some walk with further rules: with those rules it has the files that
they spare, and ends as before. -/
theorem joint_walk_eq (hd : disk.root.WellFormed) (root : String)
    (h : ∀ f, ins.obstacle? (Path.ofString root) (arrivalAt (Path.ofString root) rules disk []) = some f →
      ins.obstacle? (Path.ofString root) (arrivalAt (Path.ofString root) more disk []) = some f) :
    sources (arrivalAt (Path.ofString root) (rules ++ more) disk [])
        = (sources (arrivalAt (Path.ofString root) rules disk [])).filter (spares more) ∧
      ins.obstacle? (Path.ofString root) (arrivalAt (Path.ofString root) (rules ++ more) disk [])
        = ins.obstacle? (Path.ofString root) (arrivalAt (Path.ofString root) rules disk []) := by
  rw [arrivalAt_append]
  refine ins.sources_pruned_eq more (Path.ofString root) fun f x hx hend hxf => ?_
  -- what breaks the other walk off is the same obstacle, and has been left by the further rules
  obtain ⟨ys, y, zs, hsplit, -, hyf⟩ := ins.exists_obstacle (Path.ofString root) (h f hend)
  have hy : y ∈ arrivalAt (Path.ofString root) more disk [] := by
    rw [hsplit]
    exact List.mem_append_right _ List.mem_cons_self
  have hsame : x = y := ins.obstacle_unique hd root (ins.obstacle_mem_plain hxf hx)
    (ins.obstacle_mem_plain hyf hy) hxf hyf
  rw [arrivalAt_pruned] at hy
  obtain ⟨z, _, hleft⟩ := List.mem_flatMap.mp hy
  rw [hsame]
  exact (ins.pruned_of_left more hyf hleft).2

/-- Walks that end alike: the walk with the rules of both has the files that they have in common, and ends so
too. -/
theorem joint_walk_common (hd : disk.root.WellFormed) (root : String)
    (h : ins.obstacle? (Path.ofString root) (arrivalAt (Path.ofString root) rules disk [])
      = ins.obstacle? (Path.ofString root) (arrivalAt (Path.ofString root) more disk [])) :
    sources (arrivalAt (Path.ofString root) (rules ++ more) disk [])
        = (sources (arrivalAt (Path.ofString root) rules disk [])).filter
          (· ∈ sources (arrivalAt (Path.ofString root) more disk [])) ∧
      ins.obstacle? (Path.ofString root) (arrivalAt (Path.ofString root) (rules ++ more) disk [])
        = ins.obstacle? (Path.ofString root) (arrivalAt (Path.ofString root) rules disk []) := by
  obtain ⟨hjoint, hend⟩ := ins.joint_walk_eq hd root fun f hf => h.symm.trans hf
  obtain ⟨hmirror, -⟩ := ins.joint_walk_eq hd root fun f hf => h.trans hf
  refine ⟨?_, hend⟩
  rw [hjoint]
  apply List.filter_congr
  intro place hp
  rw [Bool.eq_iff_iff, decide_eq_true_eq]
  constructor
  · intro hspares
    have hmem : place ∈ sources (arrivalAt (Path.ofString root) (rules ++ more) disk []) := by
      rw [hjoint]
      exact List.mem_filter.mpr ⟨hp, hspares⟩
    rw [arrivalAt_append_comm, hmirror] at hmem
    exact List.mem_of_mem_filter hmem
  · exact fun hmem => spares_of_mem_sources (Path.ofString root) disk hmem

/-! ## Walks with patterns -/

/-- The inspector with the rules of these patterns instead of its own. -/
def excluding (patterns : List String) : Inspector := { ins with rules := Exclude.rulesOf patterns }

theorem rules_excluding (patterns : List String) : (ins.excluding patterns).rules = Exclude.rulesOf patterns := rfl

/-- The files that a walk of a directory yields. -/
def yielded (disk : Disk) (root : String) : List String :=
  (ins.drain disk (.directory root true)).items.filterMap Item.path?

/-- What breaks a walk of a directory off, if anything does. -/
def walkFailure? (disk : Disk) (root : String) : Option Failure :=
  (ins.drain disk (.directory root true)).failure

/-- Where there is no directory, all scans fail alike. -/
theorem drain_not_folder {root : String} (h : ¬disk.isFolder (Path.ofString root) = true) :
    ∃ f, ∀ (ins : Inspector) (filesOnly : Bool), ins.drain disk (.directory root filesOnly) = ⟨[], some f, []⟩ := by
  obtain ⟨f, hf⟩ := rootFailure?_of_not_isFolder disk h
  exact ⟨f, fun ins filesOnly => by simp only [drain, hf]⟩

theorem isFolder_of_walkFailure? {root : String} (h : ins.walkFailure? disk root = none) :
    disk.isFolder (Path.ofString root) = true := by
  by_contra hroot
  obtain ⟨f, hf⟩ := drain_not_folder hroot
  rw [walkFailure?, hf] at h
  cases h

/-- A walk yields the texts of the places of its files. -/
theorem yielded_eq (hd : disk.root.WellFormed) (root : String) :
    ins.yielded disk root = (sources (arrivalAt (Path.ofString root) ins.rules disk [])).map
      fun place => ((Path.ofString root).append place).text := by
  by_cases hroot : disk.isFolder (Path.ofString root) = true
  · rw [yielded, (ins.drain_files disk hd hroot).1, sourceFiles_eq ins disk hd, List.map_map, List.filterMap_map]
    exact congrFun List.filterMap_eq_map' _
  · obtain ⟨f, hf⟩ := drain_not_folder hroot
    have hfiles := (ins.drain_of_not_folder disk hroot).1
    rw [sourceFiles_eq ins disk hd, List.map_eq_nil_iff] at hfiles
    rw [yielded, hf, hfiles]
    rfl

/-- What breaks a walk of a directory off is what it comes upon. -/
theorem walkFailure?_excluding (hd : disk.root.WellFormed) {root : String}
    (hroot : disk.isFolder (Path.ofString root) = true) (patterns : List String) :
    (ins.excluding patterns).walkFailure? disk root = ins.obstacle? (Path.ofString root)
      (arrivalAt (Path.ofString root) (Exclude.rulesOf patterns) disk []) := by
  rw [walkFailure?, (drain_files _ disk hd hroot).2, sourceFiles_eq _ disk hd]
  exact obstacle?_eq _ _ _ _

/-- A walk yields the text of a place just if it has a file there: the text tells the place. -/
theorem text_mem_yielded_iff (hd : disk.root.WellFormed) (root : String) {place : List String} (h : IsPlace place) :
    ((Path.ofString root).append place).text ∈ ins.yielded disk root ↔
      place ∈ sources (arrivalAt (Path.ofString root) ins.rules disk []) := by
  rw [ins.yielded_eq hd, List.mem_map]
  constructor
  · rintro ⟨place', hp', htext⟩
    obtain ⟨hne', hnames'⟩ := (apart_arrivalAt (Path.ofString root) ins.rules disk hd).all place' hp'
    have hsame : place' = place := Path.text_append_inj hne' h.1 (fun s hs => (hnames' s hs).2.2.2)
      (fun s hs => (h.2 s hs).2.2.2) htext
    rw [← hsame]
    exact hp'
  · intro hp
    exact ⟨place, hp, rfl⟩

/-- What two walks yield in common stands at the places that they have in common. -/
theorem yielded_filter_mem (hd : disk.root.WellFormed) (root : String) (other : Inspector) :
    (ins.yielded disk root).filter (· ∈ other.yielded disk root) =
      ((sources (arrivalAt (Path.ofString root) ins.rules disk [])).filter
          (· ∈ sources (arrivalAt (Path.ofString root) other.rules disk []))).map
        fun place => ((Path.ofString root).append place).text := by
  have hplaces := (apart_arrivalAt (Path.ofString root) ins.rules disk hd).all
  rw [ins.yielded_eq hd, List.filter_map]
  refine congrArg _ (List.filter_congr fun place hp => ?_)
  simp only [Function.comp_apply, decide_eq_decide]
  exact other.text_mem_yielded_iff hd root (hplaces place hp)

variable (patterns more : List String)

/-- What walks with two lists of patterns yield in common comes first in the walk with both. -/
theorem yielded_common_begin (hd : disk.root.WellFormed) (root : String) :
    ((ins.excluding patterns).yielded disk root).filter (· ∈ (ins.excluding more).yielded disk root)
      <+: (ins.excluding (patterns ++ more)).yielded disk root := by
  rw [yielded_filter_mem _ hd, yielded_eq _ hd]
  simp only [rules_excluding, Exclude.rulesOf_append]
  exact (common_begin hd (Path.ofString root) _ _).map _

variable {patterns more}

/-- Walks with two lists of patterns that end alike: the walk with both yields what they have in common, and ends
so too. -/
theorem yielded_of_same_failure (hd : disk.root.WellFormed) (root : String)
    (h : (ins.excluding patterns).walkFailure? disk root = (ins.excluding more).walkFailure? disk root) :
    (ins.excluding (patterns ++ more)).yielded disk root =
        ((ins.excluding patterns).yielded disk root).filter (· ∈ (ins.excluding more).yielded disk root) ∧
      (ins.excluding (patterns ++ more)).walkFailure? disk root
        = (ins.excluding patterns).walkFailure? disk root := by
  by_cases hroot : disk.isFolder (Path.ofString root) = true
  · have hfailure := ins.walkFailure?_excluding hd hroot
    rw [hfailure, hfailure] at h
    obtain ⟨hfiles, hend⟩ := ins.joint_walk_common hd root h
    rw [hfailure, hfailure, yielded_filter_mem _ hd, yielded_eq _ hd]
    simp only [rules_excluding, Exclude.rulesOf_append]
    exact ⟨congrArg _ hfiles, hend⟩
  · obtain ⟨f, hf⟩ := drain_not_folder hroot
    simp only [yielded, walkFailure?, hf]
    exact ⟨rfl, trivial⟩

/-- With more patterns a walk still comes to its end if it did, and it yields no more files if it ends as it
did. -/
theorem yielded_of_subset (hd : disk.root.WellFormed) (root : String) (hsub : patterns ⊆ more) :
    ((ins.excluding patterns).walkFailure? disk root = none →
        (ins.excluding more).walkFailure? disk root = none) ∧
      ((ins.excluding more).walkFailure? disk root = (ins.excluding patterns).walkFailure? disk root →
        ((ins.excluding more).yielded disk root).Sublist ((ins.excluding patterns).yielded disk root)) := by
  by_cases hroot : disk.isFolder (Path.ofString root) = true
  · have hfailure := ins.walkFailure?_excluding hd hroot
    -- the further patterns with the others before them match what they match alone
    have hjoint : arrivalAt (Path.ofString root) (Exclude.rulesOf more) disk []
        = arrivalAt (Path.ofString root) (Exclude.rulesOf patterns ++ Exclude.rulesOf more) disk [] := by
      apply arrivalAt_congr
      intro path isDirectory
      rw [← Exclude.rulesOf_append]
      apply Exclude.excludes_rulesOf_congr
      intro p _
      rw [List.mem_append]
      exact ⟨Or.inr, fun h => h.elim (fun hp => hsub hp) id⟩
    rw [hfailure, hfailure]
    constructor
    · intro hnone
      have hclear := ins.joint_walk_of_clear hnone (Exclude.rulesOf more)
      rw [hjoint, hclear.2]
    · intro hsame
      rw [yielded_eq _ hd, yielded_eq _ hd, rules_excluding, rules_excluding, hjoint,
        (ins.joint_walk_eq hd root fun f hf => hsame.trans hf).1]
      exact List.filter_sublist.map _
  · obtain ⟨f, hf⟩ := drain_not_folder hroot
    simp only [yielded, walkFailure?, hf]
    exact ⟨id, fun _ => List.Sublist.refl _⟩

/-- A scan sees of its rules only what they match. -/
theorem drain_congr {rules rules' : List Exclude.Rule}
    (h : ∀ path isDirectory, Exclude.excludes rules path isDirectory = Exclude.excludes rules' path isDirectory)
    (root : String) (filesOnly : Bool) :
    drain { ins with rules } disk (.directory root filesOnly)
      = drain { ins with rules := rules' } disk (.directory root filesOnly) := by
  have hcollected : ∀ found, ofCollected found
      = ⟨(Walk.endOf found).1.1, (Walk.endOf found).2, (Walk.endOf found).1.2⟩ := by
    intro found
    cases found <;> rfl
  have hend : ∀ rules, Walk.endOf ((collecting { ins with rules } disk filesOnly (Path.ofString root)).arrive disk []
      ([], [])) = (ins.collecting disk filesOnly (Path.ofString root)).feedEnd ([], [])
        (arrivalAt (Path.ofString root) rules disk []) := by
    intro rules
    rw [Walk.arrive_end]
    exact Walk.feedEnd_rules (ins.collecting disk filesOnly (Path.ofString root)) rules _ _
  simp only [drain]
  cases rootFailure? disk root with
  | some f => rfl
  | none =>
    dsimp only
    rw [hcollected, hcollected, hend, hend, arrivalAt_congr (Path.ofString root) disk h]

/-- **Lists of patterns compose.** What the walks with two lists of patterns yield in common comes first in what the
walk with both lists yields. If the two walks end alike, both at the end or both broken off by the same failure,
it yields just that and ends so too. More patterns do not break a walk off that came to its end, nor add a file to
one that ends as it did. Patterns whose text is empty, repetitions and another order make no difference to a scan,
be it for files only or for records. -/
theorem exclusions_compose (hd : disk.root.WellFormed) (root : String) (patterns more : List String) :
    let files := fun ps => (ins.excluding ps).yielded disk root
    let failure := fun ps => (ins.excluding ps).walkFailure? disk root
    let common := (files patterns).filter (· ∈ files more)
    common <+: files (patterns ++ more) ∧
      (failure patterns = failure more →
        files (patterns ++ more) = common ∧ failure (patterns ++ more) = failure patterns) ∧
      (∀ longer, patterns ⊆ longer →
        (failure patterns = none → failure longer = none) ∧
          (failure longer = failure patterns → (files longer).Sublist (files patterns))) ∧
      ∀ others, (∀ p, (Exclude.PatternParts.of p).text ≠ [] → (p ∈ patterns ↔ p ∈ others)) →
        ∀ filesOnly, (ins.excluding others).drain disk (.directory root filesOnly)
          = (ins.excluding patterns).drain disk (.directory root filesOnly) := by
  intro files failure common
  refine ⟨ins.yielded_common_begin patterns more hd root, ins.yielded_of_same_failure hd root, ?_, ?_⟩
  · intro longer hsub
    exact ins.yielded_of_subset hd root hsub
  · intro others hothers filesOnly
    apply drain_congr
    intro path isDirectory
    exact (Exclude.excludes_rulesOf_congr hothers path isDirectory).symm

/-! ## A directory by a way round, with patterns -/

/-- What a walk yields of the directory with a folder of generated files, where all other paths are short enough:
its one source file, unless the patterns keep it out or the walk is broken off at the generated files. -/
theorem yielded_detour (patterns : List String) {n : Nat} (hn : 5 * n + 12 < 4096) :
    ((detourInspector []).excluding patterns).yielded detourDisk (detourText n ++ "x") =
      if (¬Exclude.excludes (Exclude.rulesOf patterns) "build_generated" true = true ∧ 4096 ≤ 5 * n + 17) ∨
          Exclude.excludes (Exclude.rulesOf patterns) "lib" true = true ∨
          Exclude.excludes (Exclude.rulesOf patterns) "lib/f.dart" false = true
      then [] else [detourText n ++ "x/lib/f.dart"] := by
  have hpath : ((detour n ["x"]).append ["lib", "f.dart"]).text = detourText n ++ "x/lib/f.dart" := by
    rw [detour_append, text_detour n (by simp)]
    rfl
  rw [yielded_eq _ wellFormed_detourDisk, ofString_detour, rules_excluding, arrivalAt_detour _ hn]
  by_cases hbuild : Exclude.excludes (Exclude.rulesOf patterns) "build_generated" true = true
  · by_cases hlib : Exclude.excludes (Exclude.rulesOf patterns) "lib" true = true
    · simp [hbuild, hlib, sources]
    · by_cases hfile : Exclude.excludes (Exclude.rulesOf patterns) "lib/f.dart" false = true
      · simp [hbuild, hlib, hfile, sources]
      · simp [hbuild, hlib, hfile, sources, hpath]
  · by_cases hlong : 4096 ≤ 5 * n + 17
    · simp [hbuild, hlong, sources]
    · by_cases hlib : Exclude.excludes (Exclude.rulesOf patterns) "lib" true = true
      · simp [hbuild, hlong, hlib, sources]
      · by_cases hfile : Exclude.excludes (Exclude.rulesOf patterns) "lib/f.dart" false = true
        · simp [hbuild, hlong, hlib, hfile, sources]
        · simp [hbuild, hlong, hlib, hfile, sources, hpath]

/-- Where all paths are short enough, nothing breaks the walk off. -/
theorem walkFailure?_detour (patterns : List String) {n : Nat} (hn : 5 * n + 17 < 4096) :
    ((detourInspector []).excluding patterns).walkFailure? detourDisk (detourText n ++ "x") = none := by
  have hlong : ¬4096 ≤ 5 * n + 17 := by omega
  rw [walkFailure?_excluding _ wellFormed_detourDisk (isFolder_detour (by omega)), ofString_detour,
    arrivalAt_detour _ (by omega), if_neg hlong, ite_self, List.nil_append]
  split
  · rfl
  · split
    · rfl
    · rfl

theorem exclusions_compose_sample :
    let files := fun ps => ((detourInspector []).excluding ps).yielded detourDisk (detourText 0 ++ "x")
    let failure := fun ps => ((detourInspector []).excluding ps).walkFailure? detourDisk (detourText 0 ++ "x")
    (detourDisk.root.WellFormed ∧ failure ["build*/"] = failure ["?ib"]) ∧
      (files (["build*/"] ++ ["?ib"]) = (files ["build*/"]).filter (· ∈ files ["?ib"]) ∧
        (files ["build*/", "?ib"]).Sublist (files ["build*/"])) ∧
      ((detourInspector []).excluding ["//", "build*/", " ", "build*/"]).drain detourDisk
          (.directory (detourText 0 ++ "x") false)
        = ((detourInspector []).excluding ["build*/"]).drain detourDisk
          (.directory (detourText 0 ++ "x") false) := by
  intro files failure
  have hnone : ∀ ps, failure ps = none := fun ps => walkFailure?_detour ps (by omega)
  obtain ⟨-, hsame, hmore, hothers⟩ := exclusions_compose (detourInspector []) wellFormed_detourDisk
    (detourText 0 ++ "x") ["build*/"] ["?ib"]
  refine ⟨⟨wellFormed_detourDisk, by rw [hnone, hnone]⟩, ⟨(hsame ?_).1, (hmore _ ?_).2 ?_⟩, hothers _ ?_ false⟩
  · exact (hnone ["build*/"]).trans (hnone ["?ib"]).symm
  · simp
  · exact (hnone ["build*/", "?ib"]).trans (hnone ["build*/"]).symm
  · intro p hp
    have hslashes : p ≠ "//" := by
      rintro rfl
      exact hp (by decide)
    have hblank : p ≠ " " := by
      rintro rfl
      exact hp (by decide)
    simp [hslashes, hblank]

/-- A pattern can add a file: it keeps a walk from what breaks the walk without it off. -/
theorem joint_walk_passes_obstacle :
    let files := fun ps => ((detourInspector []).excluding ps).yielded detourDisk (detourText 816 ++ "x")
    files [] = [] ∧ files ([] ++ ["build*/"]) = [detourText 816 ++ "x/lib/f.dart"] ∧
      files ([] ++ ["build*/"]) ≠ (files []).filter (· ∈ files ["build*/"]) := by
  intro files
  have hplain : files [] = [] := yielded_detour [] (by omega)
  have hbuild : Exclude.excludes (Exclude.rulesOf ["build*/"]) "build_generated" true = true := by
    decide +kernel
  have hlib : Exclude.excludes (Exclude.rulesOf ["build*/"]) "lib" true = false := by decide +kernel
  have hfile : Exclude.excludes (Exclude.rulesOf ["build*/"]) "lib/f.dart" false = false := by
    decide +kernel
  have hpruned : files ["build*/"] = [detourText 816 ++ "x/lib/f.dart"] := by
    show ((detourInspector []).excluding ["build*/"]).yielded detourDisk (detourText 816 ++ "x") = _
    rw [yielded_detour _ (by omega)]
    simp [hbuild, hlib, hfile]
  rw [List.nil_append, hplain, hpruned]
  exact ⟨rfl, rfl, List.cons_ne_nil _ _⟩

end Inspector

end DartSurvey.Scan
