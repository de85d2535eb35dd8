import DartSurvey.Proofs.Disk.Below
import Mathlib.Data.List.Nodup

/-!
# The places of a tree

The entries of a tree that a predicate keeps stand at places: paths of names through folders alone.
They are listed folder by folder, the entries of a folder before those of its subfolders
(`placesFrom`).

- `mem_placesFrom`: the listed places are those where the tree has an entry that is kept.
- `Apart kind places`: the places are pairwise different and all of a kind. Places of kinds that exclude
  each other can be put together (`Apart.append`). The places of a folder stand right in it
  (`apart_placesIn`), those of its subfolders below one of them (`apart_placesBelow`), so all are
  apart (`apart_placesFrom`).
- `contiguous_placesFrom`: the places below any folder stand together, those right in it first.
-/

namespace DartSurvey.Scan

open Disk (Entry Folder IsName)

/-! ## Places that are apart -/

/-- That places are pairwise different and all of a kind. -/
structure Apart (kind : List String → Prop) (places : List (List String)) : Prop where
  nodup : places.Nodup
  all : ∀ place ∈ places, kind place

namespace Apart

variable {kind left right : List String → Prop} {places xs ys : List (List String)}

theorem nil : Apart kind [] := ⟨List.nodup_nil, fun _ h => absurd h List.not_mem_nil⟩

theorem mono (h : Apart left places) (hkind : ∀ place, left place → right place) : Apart right places :=
  ⟨h.nodup, fun place hp => hkind place (h.all place hp)⟩

theorem sublist (h : Apart kind places) (hs : xs.Sublist places) : Apart kind xs :=
  ⟨h.nodup.sublist hs, fun place hp => h.all place (hs.subset hp)⟩

/-- Places of kinds that exclude each other are apart together. -/
theorem append (hx : Apart left xs) (hy : Apart right ys) (hdisjoint : ∀ place, left place → ¬right place) :
    Apart (fun place => left place ∨ right place) (xs ++ ys) := by
  constructor
  · rw [List.nodup_append]
    refine ⟨hx.nodup, hy.nodup, ?_⟩
    rintro a ha b hb rfl
    exact hdisjoint a (hx.all a ha) (hy.all a hb)
  · intro place hp
    rcases List.mem_append.mp hp with hp | hp
    · exact Or.inl (hx.all place hp)
    · exact Or.inr (hy.all place hp)

end Apart

/-- A place right in a folder, under one of the names. -/
def RightIn (folder names : List String) (place : List String) : Prop :=
  ∃ name ∈ names, IsName name ∧ place = folder ++ [name]

/-- A place below a subfolder of a folder that has one of the names. -/
def DeeperIn (folder names : List String) (place : List String) : Prop :=
  ∃ name ∈ names, IsName name ∧ ∃ next below, (∀ s ∈ next :: below, IsName s) ∧
    place = folder ++ name :: next :: below

theorem RightIn.not_deeperIn {folder names names' place : List String} (h : RightIn folder names place) :
    ¬DeeperIn folder names' place := by
  rintro ⟨name', _, _, next, below, _, rfl⟩
  obtain ⟨name, _, _, heq⟩ := h
  have hlength := congrArg List.length heq
  simp at hlength

/-- Different subfolders have nothing below them in common. -/
theorem DeeperIn.not_deeperIn {folder names names' place : List String} (h : DeeperIn folder names place)
    (hdisjoint : ∀ name ∈ names, name ∉ names') : ¬DeeperIn folder names' place := by
  rintro ⟨name', hmem', _, next', below', _, rfl⟩
  obtain ⟨name, hmem, _, next, below, _, heq⟩ := h
  have hsame := List.append_cancel_left heq
  rw [(List.cons.inj hsame).1] at hmem'
  exact hdisjoint name hmem hmem'

theorem DeeperIn.mono {folder names names' place : List String} (h : DeeperIn folder names place)
    (hsub : ∀ name ∈ names, name ∈ names') : DeeperIn folder names' place := by
  obtain ⟨name, hmem, hrest⟩ := h
  exact ⟨name, hsub name hmem, hrest⟩

/-- What is in a subfolder or below it is below it as a subfolder of the folder. -/
theorem deeperIn_of_subfolder {folder names place : List String} {name : String} (hname : IsName name)
    (h : RightIn (folder ++ [name]) names place ∨ DeeperIn (folder ++ [name]) names place) :
    DeeperIn folder [name] place := by
  refine ⟨name, List.mem_singleton_self name, hname, ?_⟩
  rcases h with ⟨next, _, hnext, rfl⟩ | ⟨next, _, hnext, next', below, hbelow, rfl⟩
  · refine ⟨next, [], ?_, by simp⟩
    intro s hs
    rw [List.mem_singleton.mp hs]
    exact hnext
  · refine ⟨next, next' :: below, ?_, by simp⟩
    intro s hs
    rcases List.mem_cons.mp hs with rfl | hs
    · exact hnext
    · exact hbelow s hs

/-- A place that consists of names, at least of one. -/
def IsPlace (place : List String) : Prop := place ≠ [] ∧ ∀ s ∈ place, IsName s

/-! ## The listed places -/

section Listed

variable (keep : String → Entry → Bool)

/-- The places of the entries of a folder that are kept. -/
def placesIn (folder : List String) (entries : Folder) : List (List String) :=
  (entries.filter fun e => keep e.1 e.2).map fun e => folder ++ [e.1]

/-- The places of the entries below the subfolders of a folder that are kept. -/
def placesBelow (folder : List String) : Folder → List (List String)
  | [] => []
  | (name, .folder entries) :: rest =>
    placesIn keep (folder ++ [name]) entries ++ placesBelow (folder ++ [name]) entries
      ++ placesBelow folder rest
  | (_, .link _) :: rest => placesBelow folder rest
  | (_, .file _) :: rest => placesBelow folder rest

/-- The places of the entries in a folder and below it that are kept. -/
def placesFrom (folder : List String) (entries : Folder) : List (List String) :=
  placesIn keep folder entries ++ placesBelow keep folder entries

theorem placesIn_cons (folder : List String) (name : String) (e : Entry) (rest : Folder) :
    placesIn keep folder ((name, e) :: rest) =
      (if keep name e then [folder ++ [name]] else []) ++ placesIn keep folder rest := by
  by_cases h : keep name e = true <;> simp [placesIn, h]

theorem mem_placesFrom_cons {folder : List String} {rest : Folder} {place : List String}
    (h : place ∈ placesFrom keep folder rest) (x : String × Entry) : place ∈ placesFrom keep folder (x :: rest) := by
  obtain ⟨name, e⟩ := x
  rw [placesFrom, placesIn_cons]
  rcases List.mem_append.mp h with h | h
  · exact List.mem_append_left _ (List.mem_append_right _ h)
  · refine List.mem_append_right _ ?_
    cases e with
    | folder es =>
      rw [placesBelow]
      exact List.mem_append_right _ h
    | link target => rwa [placesBelow]
    | file bytes => rwa [placesBelow]

/-- That a tree has at a place an entry that is kept. -/
def KeptAt (tree : Folder) (place : List String) : Prop :=
  ∃ name e, place.getLast? = some name ∧ tree.at? place = some e ∧ keep name e = true

variable {keep}

theorem keptAt_singleton {tree : Folder} {name : String} :
    KeptAt keep tree [name] ↔ ∃ e, tree.find? name = some e ∧ keep name e = true := by
  simp [KeptAt, Folder.at?]

/-- Behind a name stands what is kept in the folder of that name. -/
theorem keptAt_cons {tree : Folder} {name next : String} {rest : List String} :
    KeptAt keep tree (name :: next :: rest) ↔
      ∃ entries, tree.find? name = some (.folder entries) ∧ KeptAt keep entries (next :: rest) := by
  unfold KeptAt
  rw [List.getLast?_cons_cons, Disk.at?_cons]
  cases tree.find? name with
  | none => simp
  | some e => cases e <;> simp

theorem not_keptAt_nil {tree : Folder} : ¬KeptAt keep tree [] := by
  rintro ⟨name, e, hlast, _⟩
  cases hlast

theorem find?_cons_self (name : String) (e : Entry) (rest : Folder) :
    Folder.find? name ((name, e) :: rest) = some e := by
  simp [Folder.find?]

theorem find?_cons_ne {name name' : String} (h : name' ≠ name) (e : Entry) (rest : Folder) :
    Folder.find? name ((name', e) :: rest) = rest.find? name := by
  simp [Folder.find?, h]

theorem mem_of_find? {tree : Folder} {name : String} {e : Entry} (h : tree.find? name = some e) :
    (name, e) ∈ tree := by
  induction tree with
  | nil => cases h
  | cons x rest ih =>
    obtain ⟨name', e'⟩ := x
    by_cases hname : name' = name
    · subst hname
      rw [find?_cons_self] at h
      cases h
      exact List.mem_cons_self
    · rw [find?_cons_ne hname] at h
      exact List.mem_cons_of_mem _ (ih h)

theorem mem_placesIn {folder : List String} {entries : Folder} (hf : entries.WellFormed)
    {place : List String} :
    place ∈ placesIn keep folder entries ↔ ∃ name, place = folder ++ [name] ∧ KeptAt keep entries [name] := by
  simp only [placesIn, List.mem_map, List.mem_filter, keptAt_singleton]
  constructor
  · rintro ⟨⟨name, e⟩, ⟨hmem, hkeep⟩, rfl⟩
    exact ⟨name, rfl, e, hf.find? hmem, hkeep⟩
  · rintro ⟨name, rfl, e, hfind, hkeep⟩
    exact ⟨(name, e), ⟨mem_of_find? hfind, hkeep⟩, rfl⟩

/-- An entry that is no folder has nothing below it. -/
theorem keptAt_skip {name' : String} {e : Entry} {rest' : Folder}
    (hf : Folder.WellFormed ((name', e) :: rest')) (he : e.isFolder = false) {name next : String}
    {rest : List String} :
    KeptAt keep ((name', e) :: rest') (name :: next :: rest) ↔ KeptAt keep rest' (name :: next :: rest) := by
  rw [keptAt_cons, keptAt_cons]
  by_cases hname : name' = name
  · subst hname
    have hself : ∀ es, e ≠ .folder es := by
      rintro es rfl
      cases he
    have hrest : ∀ es, rest'.find? name' ≠ some (.folder es) := fun es hes =>
      hf.2.1 (List.mem_map.mpr ⟨_, mem_of_find? hes, rfl⟩)
    simp [find?_cons_self, hself, hrest]
  · rw [find?_cons_ne hname]

theorem mem_placesBelow {folder : List String} {entries : Folder} (hf : entries.WellFormed)
    {place : List String} :
    place ∈ placesBelow keep folder entries ↔ ∃ name next rest,
      place = folder ++ name :: next :: rest ∧ KeptAt keep entries (name :: next :: rest) := by
  fun_induction placesBelow keep folder entries with
  | case1 folder => simp [keptAt_cons, Folder.find?]
  | case2 folder name' es rest' ihb ihr =>
    have hes : Folder.WellFormed es := hf.2.2.1
    have hbelow := ihb hes
    have hrest := ihr hf.2.2.2
    rw [List.mem_append, List.mem_append, mem_placesIn hes, hbelow, hrest]
    constructor
    · rintro ((⟨next, rfl, hkept⟩ | ⟨next, next', rest, rfl, hkept⟩) | ⟨name, next, rest, rfl, hkept⟩)
      · exact ⟨name', next, [], by simp, keptAt_cons.mpr ⟨es, find?_cons_self .., hkept⟩⟩
      · exact ⟨name', next, next' :: rest, by simp, keptAt_cons.mpr ⟨es, find?_cons_self .., hkept⟩⟩
      · obtain ⟨entries, hfind, hentries⟩ := keptAt_cons.mp hkept
        have hne : name' ≠ name := by
          rintro rfl
          exact hf.2.1 (List.mem_map.mpr ⟨_, mem_of_find? hfind, rfl⟩)
        refine ⟨name, next, rest, rfl, keptAt_cons.mpr ⟨entries, ?_, hentries⟩⟩
        rw [find?_cons_ne hne, hfind]
    · rintro ⟨name, next, rest, rfl, hkept⟩
      obtain ⟨entries, hfind, hentries⟩ := keptAt_cons.mp hkept
      by_cases hname : name' = name
      · subst hname
        rw [find?_cons_self] at hfind
        cases hfind
        refine Or.inl ?_
        cases rest with
        | nil => exact Or.inl ⟨next, by simp, hentries⟩
        | cons next' rest => exact Or.inr ⟨next, next', rest, by simp, hentries⟩
      · rw [find?_cons_ne hname] at hfind
        exact Or.inr ⟨name, next, rest, rfl, keptAt_cons.mpr ⟨entries, hfind, hentries⟩⟩
  | case3 folder name' target rest' ih => simpa only [keptAt_skip hf rfl] using ih hf.2.2.2
  | case4 folder name' bytes rest' ih => simpa only [keptAt_skip hf rfl] using ih hf.2.2.2

/-- The listed places are those where an entry is kept. -/
theorem mem_placesFrom {folder : List String} {entries : Folder} (hf : entries.WellFormed)
    {place : List String} :
    place ∈ placesFrom keep folder entries ↔ ∃ rel, place = folder ++ rel ∧ KeptAt keep entries rel := by
  rw [placesFrom, List.mem_append, mem_placesIn hf, mem_placesBelow hf]
  constructor
  · rintro (⟨name, rfl, hkept⟩ | ⟨name, next, rest, rfl, hkept⟩)
    · exact ⟨[name], rfl, hkept⟩
    · exact ⟨name :: next :: rest, rfl, hkept⟩
  · rintro ⟨rel, rfl, hkept⟩
    match rel, hkept with
    | [], hkept => exact absurd hkept not_keptAt_nil
    | [name], hkept => exact Or.inl ⟨name, rfl, hkept⟩
    | name :: next :: rest, hkept => exact Or.inr ⟨name, next, rest, rfl, hkept⟩

/-! ## They are apart -/

variable (keep)

/-- The places of a folder stand right in it, each under its own name. -/
theorem apart_placesIn (folder : List String) {entries : Folder} (hf : entries.WellFormed) :
    Apart (RightIn folder (entries.map Prod.fst)) (placesIn keep folder entries) := by
  have hall : (placesIn keep folder entries).Sublist ((entries.map Prod.fst).map fun n => folder ++ [n]) := by
    rw [placesIn, List.map_map]
    exact List.filter_sublist.map _
  refine Apart.sublist ⟨?_, ?_⟩ hall
  · refine hf.nodup_names.map ?_
    intro a b h
    simpa using h
  · intro place hp
    obtain ⟨name, hname, rfl⟩ := List.mem_map.mp hp
    obtain ⟨⟨_, e⟩, he, rfl⟩ := List.mem_map.mp hname
    exact ⟨_, hname, hf.isName he, rfl⟩

/-- The places below the subfolders of a folder are apart, those of each below its own. -/
theorem apart_placesBelow (folder : List String) {entries : Folder} (hf : entries.WellFormed) :
    Apart (DeeperIn folder (entries.map Prod.fst)) (placesBelow keep folder entries) := by
  fun_induction placesBelow keep folder entries with
  | case1 folder => exact Apart.nil
  | case2 folder name es rest ihbelow ihrest =>
    obtain ⟨hname, hnew, hes, hrest⟩ := hf
    have hfirst : Apart (DeeperIn folder [name])
        (placesIn keep (folder ++ [name]) es ++ placesBelow keep (folder ++ [name]) es) :=
      ((apart_placesIn keep (folder ++ [name]) hes).append (ihbelow hes) fun _ h => h.not_deeperIn).mono
        fun _ h => deeperIn_of_subfolder hname h
    refine (hfirst.append (ihrest hrest) ?_).mono ?_
    · intro place h
      refine h.not_deeperIn ?_
      intro n hn
      rw [List.mem_singleton.mp hn]
      exact hnew
    · rintro place (h | h)
      · exact h.mono fun n hn => by rw [List.mem_singleton.mp hn]; exact List.mem_cons_self
      · exact h.mono fun n hn => List.mem_cons_of_mem name hn
  | case3 folder name target rest ih =>
    exact (ih hf.2.2.2).mono fun _ h => h.mono fun n hn => List.mem_cons_of_mem name hn
  | case4 folder name bytes rest ih =>
    exact (ih hf.2.2.2).mono fun _ h => h.mono fun n hn => List.mem_cons_of_mem name hn

/-- The places of a tree are pairwise different. -/
theorem apart_placesFrom {tree : Folder} (hf : tree.WellFormed) : Apart IsPlace (placesFrom keep [] tree) := by
  refine ((apart_placesIn keep [] hf).append (apart_placesBelow keep [] hf)
    fun _ h => h.not_deeperIn).mono ?_
  rintro place (⟨name, _, hname, rfl⟩ | ⟨name, _, hname, next, below, hbelow, rfl⟩)
  · exact ⟨by simp, by simpa using hname⟩
  · exact ⟨by simp, by simpa using ⟨hname, by simpa using hbelow⟩⟩

/-! ## The places of a folder stand together -/

/-- That the places below a folder stand together in a list, those right in the folder first. -/
def Contiguous (folder : List String) (places : List (List String)) : Prop :=
  ∃ before own deeper after, places = before ++ (own ++ deeper) ++ after ∧
    (∀ place ∈ own, ∃ name, place = folder ++ [name]) ∧
    (∀ place ∈ deeper, ∃ name next rest, place = folder ++ name :: next :: rest) ∧
    ∀ place ∈ before ++ after, ∀ name rest, place ≠ folder ++ name :: rest

theorem placesBelow_append (folder : List String) (xs ys : Folder) :
    placesBelow keep folder (xs ++ ys) = placesBelow keep folder xs ++ placesBelow keep folder ys := by
  induction xs with
  | nil => simp [placesBelow]
  | cons x xs ih =>
    obtain ⟨name, e⟩ := x
    cases e with
    | folder es => rw [List.cons_append, placesBelow, placesBelow, ih, ← List.append_assoc]
    | link target => rw [List.cons_append, placesBelow, placesBelow, ih]
    | file bytes => rw [List.cons_append, placesBelow, placesBelow, ih]

theorem wellFormed_append {xs ys : Folder} (h : Folder.WellFormed (xs ++ ys)) :
    xs.WellFormed ∧ ys.WellFormed ∧ ∀ name ∈ xs.map Prod.fst, name ∉ ys.map Prod.fst := by
  induction xs with
  | nil => exact ⟨trivial, h, fun _ hn => absurd hn List.not_mem_nil⟩
  | cons x xs ih =>
    obtain ⟨name, e⟩ := x
    rw [List.cons_append] at h
    obtain ⟨hname, hnew, he, hrest⟩ := h
    obtain ⟨hxs, hys, hdisjoint⟩ := ih hrest
    rw [List.map_append, List.mem_append, not_or] at hnew
    refine ⟨⟨hname, hnew.1, he, hxs⟩, hys, ?_⟩
    intro n hn
    rcases List.mem_cons.mp hn with rfl | hn
    · exact hnew.2
    · exact hdisjoint n hn

/-- A place below a subfolder of another name is not below the subfolder. -/
theorem DeeperIn.ne_below {folder names place : List String} (h : DeeperIn folder names place)
    {name : String} (hname : name ∉ names) (rest : List String) : place ≠ folder ++ name :: rest := by
  rintro rfl
  obtain ⟨name', hmem, _, next, below, _, heq⟩ := h
  have hsame := List.append_cancel_left heq
  rw [(List.cons.inj hsame).1] at hname
  exact hname hmem

/-- In the listing of a tree the places below any folder stand together. -/
theorem contiguous_placesFrom {entries : Folder} (hf : entries.WellFormed) (folder deep : List String) :
    Contiguous (folder ++ deep) (placesFrom keep folder entries) := by
  -- along the way to the folder: each name on it selects one entry of the listing
  induction deep generalizing folder entries with
  | nil =>
    refine ⟨[], placesIn keep folder entries, placesBelow keep folder entries, [], ?_, ?_, ?_, ?_⟩
    · simp [placesFrom]
    · intro place hp
      obtain ⟨name, rfl, _⟩ := (mem_placesIn hf).mp hp
      exact ⟨name, by simp⟩
    · intro place hp
      obtain ⟨name, next, rest, rfl, _⟩ := (mem_placesBelow hf).mp hp
      exact ⟨name, next, rest, by simp⟩
    · simp
  | cons name deep ih =>
    by_cases hfound : ∃ es, entries.find? name = some (.folder es)
    · obtain ⟨es, hes⟩ := hfound
      obtain ⟨left, right, rfl⟩ := List.append_of_mem (mem_of_find? hes)
      obtain ⟨hleft, ⟨_, hnew, hwf, hright⟩, hdisjoint⟩ := wellFormed_append hf
      obtain ⟨before, own, deeper, after, heq, hown, hdeeper, hout⟩ := ih hwf (folder ++ [name])
      have hplace : folder ++ [name] ++ deep = folder ++ name :: deep := by simp
      rw [hplace] at hown hdeeper hout
      refine ⟨placesIn keep folder (left ++ (name, .folder es) :: right) ++ placesBelow keep folder left ++ before,
        own, deeper, after ++ placesBelow keep folder right, ?_, hown, hdeeper, ?_⟩
      · have hmid : placesIn keep (folder ++ [name]) es ++ placesBelow keep (folder ++ [name]) es
            = before ++ (own ++ deeper) ++ after := heq
        rw [placesFrom, placesBelow_append, placesBelow, hmid]
        simp only [List.append_assoc]
      · intro place hp x rest
        have hnot : name ∉ left.map Prod.fst := fun hn => hdisjoint name hn List.mem_cons_self
        simp only [List.mem_append] at hp
        rw [List.append_assoc, List.cons_append]
        rcases hp with ((hp | hp) | hp) | hp | hp
        · -- right in the folder, not below a subfolder
          rintro rfl
          obtain ⟨name', heq', _⟩ := (mem_placesIn hf).mp hp
          have hlength := congrArg List.length heq'
          simp at hlength
        · exact ((apart_placesBelow keep folder hleft).all place hp).ne_below hnot _
        · have h := hout place (List.mem_append_left _ hp) x rest
          rwa [List.append_assoc, List.cons_append] at h
        · have h := hout place (List.mem_append_right _ hp) x rest
          rwa [List.append_assoc, List.cons_append] at h
        · exact ((apart_placesBelow keep folder hright).all place hp).ne_below hnew _
    · -- there is nothing below a name that no folder has
      refine ⟨placesFrom keep folder entries, [], [], [], by simp, by simp, by simp, ?_⟩
      rintro place hp x rest rfl
      rw [List.append_nil] at hp
      obtain ⟨rel, heq, hkept⟩ := (mem_placesFrom hf).mp hp
      rw [List.append_assoc] at heq
      rw [← List.append_cancel_left heq] at hkept
      cases deep with
      | nil =>
        obtain ⟨es, hes, _⟩ := keptAt_cons.mp hkept
        exact hfound ⟨es, hes⟩
      | cons next deep =>
        obtain ⟨es, hes, _⟩ := keptAt_cons.mp hkept
        exact hfound ⟨es, hes⟩

end Listed

end DartSurvey.Scan
