import DartSurvey.Proofs.Disk.Direct

/-!
# The shape of a disk

The shape of a disk is what is left of it without the bytes of its files: the names, the kinds of the
entries, and where links point to. Where a path leads depends on the shape alone.

- On the shape of a tree a walk ends at the same place, at the shape of what stands there
  (`walkTo_shape`). So whatever is asked of a disk but the bytes of a file has the same answer on its
  shape (`find_shape`, `list_shape`, `isFolder_shape`, `probe_shape`, `probeLink_shape`).
- `placeOf?`: the place that a path leads to; names behind a path to a folder lead to the place below it
  that they spell (`placeOf?_below`).
- Two disks of one shape `DifferIn` a place if only the bytes of the file there are different. A path that
  leads elsewhere reads the same on both (`DifferIn.read_elsewhere`), one that leads there the bytes there
  (`DifferIn.read_there`).
-/

namespace DartSurvey.Disk

mutual

/-- An entry without the bytes of files. -/
def Entry.shape : Entry → Entry
  | .file _ => .file []
  | .link target => .link target
  | .folder entries => .folder (Folder.shape entries)

/-- A folder without the bytes of files. -/
def Folder.shape : Folder → Folder
  | [] => []
  | (name, e) :: rest => (name, e.shape) :: Folder.shape rest

end

/-- A disk without the bytes of files. -/
def shape (d : Disk) : Disk := ⟨d.base, d.root.shape⟩

theorem find?_shape (f : Folder) (name : String) : f.shape.find? name = (f.find? name).map Entry.shape := by
  induction f with
  | nil => rfl
  | cons x rest ih =>
    obtain ⟨n, e⟩ := x
    rw [Folder.shape, Folder.find?, Folder.find?, ih]
    split <;> rfl

theorem at?_shape (f : Folder) (path : List String) : f.shape.at? path = (f.at? path).map Entry.shape := by
  induction path generalizing f with
  | nil => rfl
  | cons name path ih =>
    rw [at?_cons, at?_cons, find?_shape]
    cases f.find? name with
    | none => rfl
    | some e =>
      cases e with
      | folder entries => exact ih entries
      | file bytes => cases path <;> rfl
      | link target => cases path <;> rfl

/-! ## Ways -/

/-- A walk on the shape of a tree ends where the walk on the tree does. -/
theorem walkTo_shape (root : Folder) (follow : Bool) (hops : Nat) (here todo : List String) :
    walkTo root.shape follow hops here todo = (walkTo root follow hops here todo).map (Prod.map id Entry.shape) := by
  fun_induction walkTo root follow hops here todo with
  | case1 hops here | case2 hops here =>
    rw [walkTo, at?_shape]
    cases root.at? here.reverse <;> rfl
  | case3 hops here name rest hn ih => rw [walkTo_skip _ hn, ih]
  | case4 hops name rest hn hd =>
    rw [walkTo.eq_def]
    simp only [hn, hd, Bool.false_eq_true, ↓reduceIte]
    rfl
  | case5 hops name rest hn hd x above ih => rw [walkTo_up _ hn hd, ih]
  | case6 hops here name rest hn hd hl =>
    rw [walkTo_long _ hn hd hl]
    rfl
  | case7 hops here name rest hn hd hl he =>
    rw [walkTo_missing (isPlainName_iff.mpr ⟨hn, hd, hl⟩) (by rw [at?_shape, he]; rfl)]
    rfl
  | case8 hops here name rest hn hd hl es he ih =>
    have hs : root.shape.at? (name :: here).reverse = some (.folder (Folder.shape es)) := by
      rw [at?_shape, he]
      rfl
    rw [walkTo_folder _ hn hd hl hs, ih]
  | case9 hops here name rest hn hd hl bytes he hrest | case10 hops here name rest hn hd hl bytes he hrest
  | case11 hops here name rest hn hd hl target he hrest | case12 here name rest hn hd hl target he hrest =>
    -- what stands there is the last on the way, or nothing can be behind it
    rw [walkTo.eq_def]
    simp only [hn, hd, hl, at?_shape, he, hrest, Option.map_some, Entry.shape, Bool.false_eq_true, ↓reduceIte]
    rfl
  | case13 here name rest hn hd hl target he hrest hops ht =>
    rw [walkTo.eq_def]
    simp only [hn, hd, hl, at?_shape, he, hrest, ht, Option.map_some, Entry.shape, Bool.false_eq_true, ↓reduceIte]
    rfl
  | case14 here name rest hn hd hl target he hrest hops ht ih =>
    have hs : root.shape.at? (name :: here).reverse = some (.link target) := by
      rw [at?_shape, he]
      rfl
    rw [walkTo_link _ hn hd hl hs hrest ht, ih]

theorem find_shape (d : Disk) (follow : Bool) (p : Path) :
    d.shape.find follow p = (d.find follow p).map Entry.shape := by
  unfold find
  cases textError? p.text with
  | some err => rfl
  | none =>
    have hinside : d.shape.inside? p = d.inside? p := rfl
    rw [hinside]
    cases d.inside? p with
    | none => rfl
    | some parts =>
      simp only [shape, walkTo_shape]
      cases walkTo d.root follow maxLinks [] parts <;> rfl

theorem list_shape (d : Disk) (p : Path) : d.shape.list p = (d.list p).map Folder.shape := by
  unfold list reach
  rw [find_shape]
  cases d.find true p with
  | error err => rfl
  | ok e => cases e <;> rfl

theorem isFolder_shape (d : Disk) (p : Path) : d.shape.isFolder p = d.isFolder p := by
  unfold isFolder reach
  rw [find_shape]
  cases d.find true p with
  | error err => rfl
  | ok e => cases e <;> rfl

theorem probe_shape (d : Disk) (p : Path) : d.shape.probe p = (d.probe p).map (Option.map Entry.shape) := by
  unfold probe reach
  rw [find_shape]
  cases d.find true p with
  | error err => cases err <;> rfl
  | ok e => rfl

theorem probeLink_shape (d : Disk) (p : Path) : d.shape.probeLink p = d.probeLink p := by
  unfold probeLink
  rw [find_shape]
  cases d.find false p with
  | error err => rfl
  | ok e => cases e <;> rfl

/-! ## Places -/

/-- The place that a path leads to, through all links. -/
def placeOf? (d : Disk) (p : Path) : Option (List String) :=
  match textError? p.text, d.inside? p with
  | none, some parts =>
    match walkTo d.root true maxLinks [] parts with
    | .ok (place, _) => some place.reverse
    | .error _ => none
  | _, _ => none

theorem placeOf?_eq_some {d : Disk} {p : Path} {place : List String} :
    d.placeOf? p = some place ↔ textError? p.text = none ∧ ∃ parts e, d.inside? p = some parts ∧
      walkTo d.root true maxLinks [] parts = .ok (place.reverse, e) := by
  unfold placeOf?
  constructor
  · intro h
    split at h
    · rename_i parts htext hinside
      split at h
      · rename_i here e hwalk
        cases h
        exact ⟨htext, parts, e, hinside, by rw [List.reverse_reverse]; exact hwalk⟩
      · cases h
    · cases h
  · rintro ⟨htext, parts, e, hinside, hwalk⟩
    simp only [htext, hinside, hwalk, List.reverse_reverse]

theorem placeOf?_shape (d : Disk) (p : Path) : d.shape.placeOf? p = d.placeOf? p := by
  have hinside : d.shape.inside? p = d.inside? p := rfl
  unfold placeOf?
  rw [hinside]
  cases textError? p.text with
  | some err => rfl
  | none =>
    cases d.inside? p with
    | none => rfl
    | some parts =>
      simp only [shape, walkTo_shape]
      cases walkTo d.root true maxLinks [] parts <;> rfl

/-- A walk along names through folders ends at the place that they spell, unless a name is too long. -/
theorem walkTo_names {root : Folder} (hops : Nat) {here names : List String} {e : Entry}
    (hnames : ∀ s ∈ names, IsName s) (h : root.at? (here.reverse ++ names) = some e) :
    (∀ follow, walkTo root follow hops here names = .error .nameTooLong) ∨
      ∀ follow, (follow = true → ∀ target, e ≠ .link target) →
        walkTo root follow hops here names = .ok (names.reverse ++ here, e) := by
  induction names generalizing here with
  | nil =>
    rw [List.append_nil] at h
    exact Or.inr fun follow _ => walkTo_nil h
  | cons name rest ih =>
    obtain ⟨hempty, hdot, hdots, _⟩ := hnames name List.mem_cons_self
    have hn : ¬(name == "" || name == ".") = true := by simp [hempty, hdot]
    have hd : ¬(name == "..") = true := by simp [hdots]
    rw [List.append_cons, ← List.reverse_cons] at h
    by_cases hl : isLongName name = true
    · exact Or.inl fun follow => walkTo_long rest hn hd hl
    by_cases hrest : rest = []
    · subst hrest
      rw [List.append_nil] at h
      refine Or.inr fun follow hfollow => ?_
      cases e with
      | folder es => rw [walkTo_folder [] hn hd hl h, walkTo_nil h]; rfl
      | file bytes => exact walkTo_lastFile hn hd hl h
      | link target =>
        cases follow with
        | true => exact absurd rfl (hfollow rfl target)
        | false => exact walkTo_lastLink hn hd hl h
    · obtain ⟨es, hes⟩ := at?_append h hrest
      have hlater := ih (fun s hs => hnames s (List.mem_cons_of_mem name hs)) h
      simp only [walkTo_folder rest hn hd hl hes, List.reverse_cons, List.append_assoc, List.singleton_append]
      exact hlater

/-- Names behind a path to a folder lead to the place below it that they spell, if no link stands there. -/
theorem placeOf?_below {d : Disk} {p : Path} {tree : Folder} (hp : d.reach p = .ok (.folder tree)) :
    ∃ here, ∀ {names place : List String} {e : Entry}, names ≠ [] → (∀ s ∈ names, IsName s) →
      tree.at? names = some e → d.probeLink (p.append names) = .ok false →
      d.placeOf? (p.append names) = some place → place = here ++ names := by
  obtain ⟨parts, here, hinside, hwalk⟩ := walkTo_of_find hp
  obtain ⟨hops, hfollow⟩ := walkTo_append hwalk
  refine ⟨here.reverse, ?_⟩
  intro names place e hne hnames he hlink hplace
  obtain ⟨htext, parts', e', hinside', hwalk'⟩ := placeOf?_eq_some.mp hplace
  rw [inside?_append hinside, Option.some.injEq] at hinside'
  subst hinside'
  rw [hfollow true names hne] at hwalk'
  have hat : d.root.at? (here.reverse ++ names) = some e := by rw [at?_through (walkTo_at? hwalk), he]
  rcases walkTo_names hops hnames hat with hlong | hends
  · rw [hlong true] at hwalk'
    cases hwalk'
  · have hfound : d.find false (p.append names) = .ok e := by
      simp only [find, htext, inside?_append hinside, hfollow false names hne, hends false (by simp)]
      rfl
    have hno : ∀ target, e ≠ .link target := by
      rintro target rfl
      rw [probeLink, hfound] at hlink
      cases hlink
    rw [hends true fun _ => hno, Except.ok.injEq, Prod.mk.injEq] at hwalk'
    rw [← List.reverse_reverse place, ← hwalk'.1, List.reverse_append, List.reverse_reverse]

theorem reach_of_placeOf? {d : Disk} {p : Path} {place : List String} (h : d.placeOf? p = some place) :
    ∃ e, d.reach p = .ok e ∧ d.root.at? place = some e := by
  obtain ⟨htext, parts, e, hinside, hwalk⟩ := placeOf?_eq_some.mp h
  refine ⟨e, ?_, by simpa using walkTo_at? hwalk⟩
  simp only [reach, find, htext, hinside, hwalk]
  rfl

theorem placeOf?_of_reach {d : Disk} {p : Path} {e : Entry} (h : d.reach p = .ok e) :
    ∃ place, d.placeOf? p = some place := by
  obtain ⟨parts, place, hinside, hwalk⟩ := walkTo_of_find h
  exact ⟨place.reverse, placeOf?_eq_some.mpr ⟨textError?_of_find h, parts, e, hinside, by simpa using hwalk⟩⟩

/-! ## Disks of one shape -/

/-- That two disks have the same names and kinds of entries, and differ in the bytes of the file at a place
only. -/
structure DifferIn (place : List String) (bytes bytes' : List UInt8) (d d' : Disk) : Prop where
  base : d'.base = d.base
  shape : d'.root.shape = d.root.shape
  there : d.root.at? place = some (.file bytes)
  there' : d'.root.at? place = some (.file bytes')
  elsewhere : ∀ other, other ≠ place → ∀ content, d.root.at? other = some (.file content) →
    d'.root.at? other = some (.file content)

namespace DifferIn

variable {place : List String} {bytes bytes' : List UInt8} {d d' : Disk} (h : DifferIn place bytes bytes' d d')
include h

theorem shape_eq : d'.shape = d.shape := by
  unfold Disk.shape
  rw [h.base, h.shape]

theorem placeOf?_eq (p : Path) : d'.placeOf? p = d.placeOf? p := by
  rw [← placeOf?_shape d', h.shape_eq, placeOf?_shape]

/-- A path that leads to the place reads the bytes there. -/
theorem read_there {p : Path} (hp : d.placeOf? p = some place) : d.read p = .ok bytes ∧ d'.read p = .ok bytes' := by
  obtain ⟨e, hreach, he⟩ := reach_of_placeOf? hp
  obtain ⟨e', hreach', he'⟩ := reach_of_placeOf? ((h.placeOf?_eq p).trans hp)
  rw [h.there, Option.some.injEq] at he
  rw [h.there', Option.some.injEq] at he'
  subst he he'
  exact ⟨by rw [read, hreach], by rw [read, hreach']⟩

/-- A path that does not lead to the place reads the same on both disks. -/
theorem read_elsewhere {p : Path} (hp : d.placeOf? p ≠ some place) : d'.read p = d.read p := by
  have hsame : (d'.reach p).map Entry.shape = (d.reach p).map Entry.shape := by
    unfold reach
    rw [← find_shape, ← find_shape, h.shape_eq]
  unfold read
  cases hreach : d.reach p with
  | error err =>
    rw [hreach] at hsame
    cases hreach' : d'.reach p with
    | error err' =>
      rw [hreach'] at hsame
      cases hsame
      rfl
    | ok e' =>
      rw [hreach'] at hsame
      cases hsame
  | ok e =>
    obtain ⟨other, hother⟩ := placeOf?_of_reach hreach
    obtain ⟨_, hreached, he⟩ := reach_of_placeOf? hother
    obtain ⟨e', hreach', he'⟩ := reach_of_placeOf? ((h.placeOf?_eq p).trans hother)
    cases hreach.symm.trans hreached
    rw [hreach, hreach'] at hsame
    rw [hreach']
    cases e with
    | file content =>
      have hne : other ≠ place := fun heq => hp (heq ▸ hother)
      rw [h.elsewhere other hne content he, Option.some.injEq] at he'
      rw [← he']
    | link target => cases e' <;> simp_all [Except.map, Entry.shape]
    | folder es => cases e' <;> simp_all [Except.map, Entry.shape]

end DifferIn

end DartSurvey.Disk
