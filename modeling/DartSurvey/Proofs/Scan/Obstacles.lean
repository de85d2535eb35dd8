import DartSurvey.Proofs.Scan.Distinct
import DartSurvey.Proofs.Scan.Pruning

/-!
# What breaks a walk off

A walk is broken off by a file that cannot be looked at or by a folder that cannot be listed. The failure tells
which: what a walk without rules comes upon holds one encounter at most for each failure
(`obstacle_unique`).

- An encounter is with an entry of the tree at its place, with a folder if it cannot be listed and with
  another entry if not (`place_filesIn`, `place_foldersIn` by recursion on the tree, `place_arrivalAt`). So
  the place tells the kind of an encounter (`isBarred_of_place`).
- The text in a failure has the components of the directory and behind them those of the place
  (`components_obstacle`), whichever way the walk writes it.
- Rules leave an obstacle as it is or leave nothing of it, so one that is left by rules is left by them wherever
  it is met (`pruned_of_left`).
-/

namespace DartSurvey.Scan

open Disk (AccessError Entry Folder Path)

namespace Encounter

/-- The place of an encounter. -/
def place : Encounter → List String
  | .source place => place
  | .excluded place => place
  | .hidden _ place => place
  | .barred _ place => place

/-- Whether an encounter is with a folder that cannot be listed. -/
def isBarred : Encounter → Bool
  | .barred _ _ => true
  | .source _ | .excluded _ | .hidden _ _ => false

end Encounter

/-- Whether an entry is a folder, or is none. -/
def isOfKind (isFolder : Bool) (_ : String) (e : Entry) : Bool := e.isFolder == isFolder

/-! ## Where encounters are -/

section Course

variable (root : Path) (rules : List Exclude.Rule) (disk : Disk)

theorem place_fileAt {folder : List String} {name : String} {x : Encounter}
    (h : x ∈ fileAt root rules disk folder name) : x.place = folder ++ [name] ∧ x.isBarred = false := by
  unfold fileAt at h
  split at h
  · cases h
  · split at h
    · cases List.mem_singleton.mp h
      exact ⟨rfl, rfl⟩
    · cases h
    · split at h
      · cases List.mem_singleton.mp h
        exact ⟨rfl, rfl⟩
      · cases List.mem_singleton.mp h
        exact ⟨rfl, rfl⟩

/-- At the files of a folder a walk meets entries other than folders. -/
theorem place_filesIn {folder : List String} {entries : Folder} {x : Encounter}
    (h : x ∈ filesIn root rules disk folder entries) :
    x.place ∈ placesIn (isOfKind x.isBarred) folder entries := by
  obtain ⟨⟨name, e⟩, hmem, hx⟩ := List.mem_flatMap.mp h
  obtain ⟨hentry, hloose⟩ := List.mem_filter.mp hmem
  obtain ⟨hplace, hbarred⟩ := place_fileAt root rules disk hx
  have hkind : e.isFolder = false := by
    cases e with
    | folder es => simp [countsAsFolder] at hloose
    | link target => rfl
    | file bytes => rfl
  rw [hplace, hbarred]
  refine List.mem_map.mpr ⟨(name, e), List.mem_filter.mpr ⟨hentry, ?_⟩, rfl⟩
  simp [isOfKind, hkind]

/-- Below the subfolders of a folder a walk meets entries of the tree there, and such subfolders. -/
theorem place_foldersIn {folder : List String} {entries : Folder} {x : Encounter}
    (h : x ∈ foldersIn root rules disk folder entries) :
    x.place ∈ placesFrom (isOfKind x.isBarred) folder entries := by
  fun_induction foldersIn root rules disk folder entries with
  | case1 folder => cases h
  | case2 folder name es rest ihbelow ihrest =>
    rcases List.mem_append.mp h with h | h
    · split at h
      · cases h
      · split at h
        · -- the subfolder itself
          cases List.mem_singleton.mp h
          refine List.mem_append_left _ ?_
          rw [placesIn_cons]
          exact List.mem_append_left _ (List.mem_singleton_self _)
        · have hbelow : x.place ∈ placesFrom (isOfKind x.isBarred) (folder ++ [name]) es := by
            rcases List.mem_append.mp h with h | h
            · exact List.mem_append_left _ (place_filesIn root rules disk h)
            · exact ihbelow h
          refine List.mem_append_right _ ?_
          rw [placesBelow]
          exact List.mem_append_left _ hbelow
    · exact mem_placesFrom_cons _ (ihrest h) _
  | case3 folder name target rest ih => exact mem_placesFrom_cons _ (ih h) _
  | case4 folder name bytes rest ih => exact mem_placesFrom_cons _ (ih h) _

/-- A walk meets entries of the tree of its directory. -/
theorem place_arrivalAt {tree : Folder} (hlist : disk.list (root.dotted.append []) = .ok tree) {x : Encounter}
    (h : x ∈ arrivalAt root rules disk []) : x.place ∈ placesFrom (isOfKind x.isBarred) [] tree := by
  rw [arrivalAt, hlist] at h
  rcases List.mem_append.mp h with h | h
  · exact List.mem_append_left _ (place_filesIn root rules disk h)
  · exact place_foldersIn root rules disk h

end Course

/-- Entries that stand at one place are of one kind. -/
theorem isBarred_of_place {tree : Folder} (htree : tree.WellFormed) {x y : Encounter}
    (hx : x.place ∈ placesFrom (isOfKind x.isBarred) [] tree)
    (hy : y.place ∈ placesFrom (isOfKind y.isBarred) [] tree) (h : x.place = y.place) : x.isBarred = y.isBarred := by
  obtain ⟨_, rfl, _, e, _, he, hkind⟩ := (mem_placesFrom htree).mp hx
  obtain ⟨_, rfl, _, e', _, he', hkind'⟩ := (mem_placesFrom htree).mp hy
  rw [← h, he] at he'
  cases he'
  rw [← beq_iff_eq.mp hkind, ← beq_iff_eq.mp hkind']

/-- What rules leave of an encounter is that encounter, a file only if they spare it, or a file in its place that
they keep out. -/
theorem pruned_cases (rules : List Exclude.Rule) {x y : Encounter} (h : x ∈ pruned rules y) :
    (x = y ∧ pruned rules y = [y] ∧ ∀ place, y = .source place → spares rules place = true) ∨
      ∃ place, y = .source place ∧ x = .excluded place := by
  cases y with
  | source place =>
    by_cases hr : reaches rules place.dropLast = true
    · by_cases hx : Exclude.excludes rules (Walk.relative place) false = true
      · simp only [pruned, hr, hx, Bool.not_true, Bool.false_eq_true, ↓reduceIte, List.mem_singleton] at h
        exact Or.inr ⟨place, rfl, h⟩
      · simp only [pruned, hr, hx, Bool.not_true, Bool.false_eq_true, ↓reduceIte, List.mem_singleton] at h
        refine Or.inl ⟨h, by simp [pruned, hr, hx], ?_⟩
        rintro _ ⟨⟩
        simp [spares, hr, hx]
    · simp [pruned, hr] at h
  | excluded place =>
    by_cases hr : reaches rules place.dropLast = true
    · exact Or.inl ⟨by simpa [pruned, hr] using h, by simp [pruned, hr], by simp⟩
    · simp [pruned, hr] at h
  | hidden e place =>
    by_cases hr : reaches rules place.dropLast = true
    · exact Or.inl ⟨by simpa [pruned, hr] using h, by simp [pruned, hr], by simp⟩
    · simp [pruned, hr] at h
  | barred e place =>
    by_cases hr : reaches rules place = true
    · exact Or.inl ⟨by simpa [pruned, hr] using h, by simp [pruned, hr], by simp⟩
    · simp [pruned, hr] at h

namespace Inspector

variable (ins : Inspector)

/-! ## What a failure tells -/

/-- The path by which a folder is listed has the components of the directory and those of the place. -/
theorem components_listedPath (root : String) {place : List String} (h : IsPlace place) :
    Path.components ((ins.listing (Path.ofString root)).listedPath place).text = Path.components root ++ place := by
  show Path.components ((Path.ofString root).dotted.append place).text = _
  rcases (Path.ofString root).dotted_cases with hdotted | ⟨hempty, hdotted⟩
  · rw [hdotted]
    exact congrArg Path.parts (Path.ofString_text_append root h.1 h.2)
  · -- the dot in front is no component of the text
    have hroot : Path.components root = [] := congrArg Path.parts hempty
    have htext : ((Disk.Path.mk "" ["."]).append place).text = "." ++ "/" ++ String.intercalate "/" place := by
      rw [Path.text_append _ h.1, String.intercalate_append_of_ne_nil (List.cons_ne_nil _ _) h.1]
      simp
    have hplace : Path.components (String.intercalate "/" place) = place :=
      Path.components_intercalate h.1 fun s hs => ⟨(h.2 s hs).1, (h.2 s hs).2.1, (h.2 s hs).2.2.2⟩
    rw [hdotted, htext, Path.components_append, hplace, hroot]
    rfl

/-- An obstacle is a file that cannot be looked at or a folder that cannot be listed, and its failure tells the
error and the place. -/
theorem components_obstacle (root : String) {x : Encounter} (hplace : IsPlace x.place) {f : Failure}
    (h : ins.obstacle? (Path.ofString root) [x] = some f) :
    ∃ e text, f = .unreadable (.access e text) ∧ Path.components text = Path.components root ++ x.place ∧
      x = if x.isBarred then .barred e x.place else .hidden e x.place := by
  cases x with
  | source place => cases h
  | excluded place => cases h
  | hidden e place =>
    cases h
    refine ⟨e, _, rfl, ?_, rfl⟩
    exact congrArg Path.parts (Path.ofString_text_append root hplace.1 hplace.2)
  | barred e place =>
    cases h
    exact ⟨e, _, rfl, ins.components_listedPath root hplace, rfl⟩

/-- What a walk without rules comes upon holds one obstacle at most for each failure. -/
theorem obstacle_unique {disk : Disk} (hd : disk.root.WellFormed) (root : String) {x y : Encounter} {f : Failure}
    (hx : x ∈ arrivalAt (Path.ofString root) [] disk []) (hy : y ∈ arrivalAt (Path.ofString root) [] disk [])
    (hxf : ins.obstacle? (Path.ofString root) [x] = some f)
    (hyf : ins.obstacle? (Path.ofString root) [y] = some f) : x = y := by
  cases hlist : disk.list ((Path.ofString root).dotted.append []) with
  | error e =>
    rw [arrivalAt, hlist] at hx hy
    rw [List.mem_singleton.mp hx, List.mem_singleton.mp hy]
  | ok tree =>
    have htree := Disk.list_wellFormed hd hlist
    have hxp := place_arrivalAt _ _ _ hlist hx
    have hyp := place_arrivalAt _ _ _ hlist hy
    obtain ⟨e, text, rfl, htext, hxe⟩ :=
      ins.components_obstacle root ((apart_placesFrom _ htree).all _ hxp) hxf
    obtain ⟨e', text', hf, htext', hye⟩ :=
      ins.components_obstacle root ((apart_placesFrom _ htree).all _ hyp) hyf
    cases hf
    have hplace : x.place = y.place := List.append_cancel_left (htext.symm.trans htext')
    have hkind := isBarred_of_place htree hxp hyp hplace
    rw [hxe, hye, hplace, hkind]

/-! ## What rules leave of an obstacle -/

/-- An obstacle that rules leave of an encounter is that encounter, and is left by them wherever it is met. -/
theorem pruned_of_left (rules : List Exclude.Rule) {root : Path} {x y : Encounter} {f : Failure}
    (hx : ins.obstacle? root [x] = some f) (h : x ∈ pruned rules y) : y = x ∧ pruned rules x = [x] := by
  rcases pruned_cases rules h with ⟨rfl, hleft, _⟩ | ⟨place, rfl, rfl⟩
  · exact ⟨rfl, hleft⟩
  · cases hx

/-- What breaks off a walk with rules breaks off the walk without rules, if nothing before it does. -/
theorem obstacle_mem_plain {disk : Disk} {rules : List Exclude.Rule} {root : Path} {x : Encounter} {f : Failure}
    (hx : ins.obstacle? root [x] = some f) (h : x ∈ arrivalAt root rules disk []) :
    x ∈ arrivalAt root [] disk [] := by
  rw [arrivalAt_pruned] at h
  obtain ⟨y, hy, hleft⟩ := List.mem_flatMap.mp h
  obtain ⟨rfl, _⟩ := ins.pruned_of_left rules hx hleft
  exact hy

end Inspector

end DartSurvey.Scan
