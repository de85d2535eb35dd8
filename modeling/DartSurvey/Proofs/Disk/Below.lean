import DartSurvey.Disk.Access

/-!
# What stands below a folder

- A tree is well formed when every name in it can be a name and no folder has two entries of one
  name (`Folder.WellFormed`); everything below a well-formed folder is well formed
  (`at?_wellFormed`), and so is what is listed there (`list_wellFormed`).
- A path that leads to a folder can be followed by more names: the walk goes on from that folder,
  with the links that are left (`walkTo_append`).
- With its dot in front a path leads where it leads without (`find_dotted`), unless the dot makes it too long
  (`find_dotted_append`).
- An entry of a folder is what a path through that folder leads to, unless the longer path is
  refused (`find_allowed`, `find_refused`). So a folder in a listing is listed as it stands there (`list_folder`) and
  is no link (`isLink_folder`), and a link in a listing that leads to a folder is a link
  (`isLink_link`).
-/

namespace DartSurvey.Disk

/-! ## Well-formed trees -/

/-- A text that can be the name of an entry. -/
def IsName (name : String) : Prop := name ≠ "" ∧ name ≠ "." ∧ name ≠ ".." ∧ '/' ∉ name.toList

mutual

/-- An entry with nothing ill-formed below it. -/
def Entry.WellFormed : Entry → Prop
  | .file _ => True
  | .link _ => True
  | .folder entries => Folder.WellFormed entries

/-- A folder whose names are distinct names, with nothing ill-formed below it. -/
def Folder.WellFormed : Folder → Prop
  | [] => True
  | (name, e) :: rest => IsName name ∧ name ∉ rest.map Prod.fst ∧ e.WellFormed ∧ Folder.WellFormed rest

end

theorem Folder.WellFormed.isName {f : Folder} (hf : f.WellFormed) {name : String} {e : Entry}
    (h : (name, e) ∈ f) : IsName name := by
  induction f with
  | nil => simp at h
  | cons x rest ih =>
    obtain ⟨n, a⟩ := x
    obtain ⟨hn, _, _, hr⟩ := hf
    rcases List.mem_cons.mp h with h | h
    · cases h; exact hn
    · exact ih hr h

theorem Folder.WellFormed.nodup_names {f : Folder} (hf : f.WellFormed) : (f.map Prod.fst).Nodup := by
  induction f with
  | nil => exact List.nodup_nil
  | cons x rest ih =>
    obtain ⟨_, hd, _, hr⟩ := hf
    exact List.nodup_cons.mpr ⟨hd, ih hr⟩

/-- In a well-formed folder an entry is found under its name. -/
theorem Folder.WellFormed.find? {f : Folder} (hf : f.WellFormed) {name : String} {e : Entry}
    (h : (name, e) ∈ f) : f.find? name = some e := by
  induction f with
  | nil => simp at h
  | cons x rest ih =>
    obtain ⟨n, a⟩ := x
    obtain ⟨_, hd, _, hr⟩ := hf
    rcases List.mem_cons.mp h with h | h
    · cases h; simp [Folder.find?]
    · have hne : n ≠ name := by
        rintro rfl
        exact hd (List.mem_map.mpr ⟨_, h, rfl⟩)
      simp [Folder.find?, hne, ih hr h]

theorem find?_wellFormed {f : Folder} (hf : f.WellFormed) {name : String} {e : Entry}
    (h : f.find? name = some e) : e.WellFormed := by
  induction f with
  | nil => simp [Folder.find?] at h
  | cons x rest ih =>
    obtain ⟨n, a⟩ := x
    obtain ⟨_, _, ha, hr⟩ := hf
    rw [Folder.find?] at h
    split at h
    · cases h; exact ha
    · exact ih hr h

/-- A path of names leads on from the folder under its first name. -/
theorem at?_cons (name : String) (path : List String) (f : Folder) :
    f.at? (name :: path) = match f.find? name with
      | some (.folder entries) => Folder.at? path entries
      | some e => if path.isEmpty then some e else none
      | none => none := by
  cases path with
  | nil =>
    rw [Folder.at?]
    cases f.find? name with
    | none => rfl
    | some e => cases e <;> simp [Folder.at?]
  | cons next path =>
    rw [Folder.at?]
    · cases f.find? name with
      | none => rfl
      | some e => cases e <;> simp
    · simp

/-- What stands below a well-formed folder is well formed. -/
theorem at?_wellFormed {f : Folder} (hf : f.WellFormed) {path : List String} {e : Entry}
    (h : f.at? path = some e) : e.WellFormed := by
  induction path generalizing f with
  | nil =>
    rw [Folder.at?] at h
    cases h
    exact hf
  | cons name path ih =>
    rw [at?_cons] at h
    cases hn : f.find? name with
    | none => simp [hn] at h
    | some a =>
      have ha := find?_wellFormed hf hn
      cases a with
      | folder entries => exact ih ha (by simpa [hn] using h)
      | file bytes => simp only [hn, Option.ite_none_right_eq_some] at h; cases h.2; exact ha
      | link target => simp only [hn, Option.ite_none_right_eq_some] at h; cases h.2; exact ha

/-- Behind a path to a folder a path leads on from that folder. -/
theorem at?_through {f entries : Folder} {path : List String} (h : f.at? path = some (.folder entries))
    (more : List String) : f.at? (path ++ more) = entries.at? more := by
  induction path generalizing f with
  | nil =>
    rw [Folder.at?] at h
    cases h
    rfl
  | cons first path ih =>
    rw [at?_cons] at h
    rw [List.cons_append, at?_cons]
    cases hn : f.find? first with
    | none => simp [hn] at h
    | some a =>
      cases a with
      | folder below => exact ih (by simpa [hn] using h)
      | file bytes => simp [hn] at h
      | link target => simp [hn] at h

/-- One more name behind a path to a folder is looked up in that folder. -/
theorem at?_snoc {f entries : Folder} {path : List String} (h : f.at? path = some (.folder entries))
    (name : String) : f.at? (path ++ [name]) = entries.find? name := by
  rw [at?_through h, Folder.at?]

/-! ## One step of a walk -/

theorem walkTo_nil {root : Folder} {follow : Bool} {hops : Nat} {here : List String} {e : Entry}
    (h : root.at? here.reverse = some e) : walkTo root follow hops here [] = .ok (here, e) := by
  rw [walkTo, h]

section Step

variable {root : Folder} {follow : Bool} {hops : Nat} {here : List String} {name : String}
  (rest : List String)

theorem walkTo_skip (h : (name == "" || name == ".") = true) :
    walkTo root follow hops here (name :: rest) = walkTo root follow hops here rest := by
  rw [walkTo.eq_def]
  simp only [h, ↓reduceIte]

theorem walkTo_up {above : List String} (h : ¬(name == "" || name == ".") = true)
    (hd : (name == "..") = true) (x : String) :
    walkTo root follow hops (x :: above) (name :: rest) = walkTo root follow hops above rest := by
  rw [walkTo.eq_def]
  simp only [h, hd, Bool.false_eq_true, ↓reduceIte]

variable (hn : ¬(name == "" || name == ".") = true) (hd : ¬(name == "..") = true)
include hn hd

theorem walkTo_long (hl : isLongName name = true) :
    walkTo root follow hops here (name :: rest) = .error .nameTooLong := by
  rw [walkTo.eq_def]
  simp only [hn, hd, hl, Bool.false_eq_true, ↓reduceIte]

variable (hl : ¬isLongName name = true)
include hl

theorem walkTo_folder {entries : Folder} (he : root.at? (name :: here).reverse = some (.folder entries)) :
    walkTo root follow hops here (name :: rest) = walkTo root follow hops (name :: here) rest := by
  rw [walkTo.eq_def]
  simp only [hn, hd, hl, he, Bool.false_eq_true, ↓reduceIte]

theorem walkTo_link {target : String} (he : root.at? (name :: here).reverse = some (.link target))
    (hf : ¬(rest.isEmpty && !follow) = true) (ht : ¬(Path.anchorOf target != "") = true) :
    walkTo root follow (hops + 1) here (name :: rest)
      = walkTo root follow hops here (Path.names target ++ rest) := by
  rw [walkTo.eq_def]
  simp only [hn, hd, hl, he, hf, ht, Bool.false_eq_true, ↓reduceIte]

/-- A walk that may not follow a link at its end stops there. -/
theorem walkTo_lastLink {target : String} (he : root.at? (name :: here).reverse = some (.link target)) :
    walkTo root false hops here [name] = .ok (name :: here, .link target) := by
  rw [walkTo.eq_def]
  simp only [hn, hd, hl, he, Bool.false_eq_true, ↓reduceIte]
  rfl

theorem walkTo_lastFile {bytes : List UInt8} (he : root.at? (name :: here).reverse = some (.file bytes)) :
    walkTo root follow hops here [name] = .ok (name :: here, .file bytes) := by
  rw [walkTo.eq_def]
  simp only [hn, hd, hl, he, Bool.false_eq_true, ↓reduceIte]
  rfl

end Step

/-! ## Longer paths -/

/-- A walk ends at an entry of the tree. -/
theorem walkTo_at? {root : Folder} {follow : Bool} {hops : Nat} {here todo place : List String}
    {e : Entry} (h : walkTo root follow hops here todo = .ok (place, e)) : root.at? place.reverse = some e := by
  fun_induction walkTo root follow hops here todo with
  | case1 | case2 =>
    split at h
    · rename_i he
      cases h
      exact he
    · cases h
  | case3 hops here name rest _ ih => exact ih h
  | case4 => cases h
  | case5 hops name rest _ _ x above ih => exact ih h
  | case6 => cases h
  | case7 => cases h
  | case8 hops here name rest _ _ _ entries _ ih => exact ih h
  | case9 hops here name rest _ _ _ bytes he _ => cases h; exact he
  | case10 => cases h
  | case11 hops here name rest _ _ _ target he _ => cases h; exact he
  | case12 => cases h
  | case13 => cases h
  | case14 here name rest _ _ _ target he _ hops _ ih => exact ih h

/-- Behind a path that leads to a folder the walk goes on from that folder. -/
theorem walkTo_append {root entries : Folder} {hops : Nat} {here todo place : List String}
    (h : walkTo root true hops here todo = .ok (place, .folder entries)) :
    ∃ hops', ∀ (follow : Bool) (more : List String), more ≠ [] →
      walkTo root follow hops here (todo ++ more) = walkTo root follow hops' place more := by
  fun_induction walkTo root true hops here todo with
  | case1 hops | case2 hops =>
    split at h
    · cases h
      exact ⟨hops, fun _ _ _ => rfl⟩
    · cases h
  | case3 hops here name rest hn ih =>
    obtain ⟨hops', ih⟩ := ih h
    refine ⟨hops', fun follow more hm => ?_⟩
    rw [List.cons_append, walkTo_skip _ hn]
    exact ih follow more hm
  | case4 => cases h
  | case5 hops name rest hn hd x above ih =>
    obtain ⟨hops', ih⟩ := ih h
    refine ⟨hops', fun follow more hm => ?_⟩
    rw [List.cons_append, walkTo_up _ hn hd]
    exact ih follow more hm
  | case6 => cases h
  | case7 => cases h
  | case8 hops here name rest hn hd hl es he ih =>
    obtain ⟨hops', ih⟩ := ih h
    refine ⟨hops', fun follow more hm => ?_⟩
    rw [List.cons_append, walkTo_folder _ hn hd hl he]
    exact ih follow more hm
  | case9 => cases h
  | case10 => cases h
  | case11 => simp_all
  | case12 => cases h
  | case13 => cases h
  | case14 here name rest hn hd hl target he _ hops ht ih =>
    obtain ⟨hops', ih⟩ := ih h
    refine ⟨hops', fun follow more hm => ?_⟩
    -- a link with something behind it is followed whatever `follow` says
    have hf : ¬((rest ++ more).isEmpty && !follow) = true := by simp [hm]
    rw [List.cons_append, walkTo_link _ hn hd hl he hf ht, ← List.append_assoc]
    exact ih follow more hm

theorem Path.append_snoc (p : Path) (folder : List String) (name : String) :
    p.append (folder ++ [name]) = (p.append folder).append [name] := by
  simp [append]

/-- A folder below a place the disk is asked for lies inside the disk if the place does. -/
theorem inside?_append {d : Disk} {p : Path} {parts : List String} (h : d.inside? p = some parts)
    (more : List String) : d.inside? (p.append more) = some (parts ++ more) := by
  unfold inside? at h ⊢
  simp only [Path.append]
  split at h
  · rename_i ha
    cases h
    simp [ha]
  · rename_i ha
    simp only [Option.ite_none_right_eq_some, Option.some.injEq, Bool.and_eq_true,
      List.isPrefixOf_iff_prefix] at h
    obtain ⟨⟨hb, hp⟩, rfl⟩ := h
    have hp' := hp.trans (List.prefix_append p.parts more)
    simp [ha, hb, List.isPrefixOf_iff_prefix.mpr hp', List.drop_append_of_le_length hp.length_le]

/-- What a path leads to is what the walk along its components ends at. -/
theorem walkTo_of_find {d : Disk} {follow : Bool} {p : Path} {e : Entry} (h : d.find follow p = .ok e) :
    ∃ parts place, d.inside? p = some parts ∧ walkTo d.root follow maxLinks [] parts = .ok (place, e) := by
  unfold find at h
  split at h
  · cases h
  split at h
  · cases h
  rename_i parts hin
  cases hw : walkTo d.root follow maxLinks [] parts with
  | error err => simp [hw, Except.map] at h
  | ok found =>
    obtain ⟨place, _⟩ := found
    simp only [hw, Except.map, Except.ok.injEq] at h
    subst h
    exact ⟨parts, place, hin, hw⟩

theorem textError?_of_find {d : Disk} {follow : Bool} {p : Path} {e : Entry} (h : d.find follow p = .ok e) :
    textError? p.text = none := by
  unfold find at h
  split at h
  · cases h
  · assumption

/-- What is listed is well formed, if the disk is. -/
theorem list_wellFormed {d : Disk} (hd : d.root.WellFormed) {p : Path} {entries : Folder}
    (h : d.list p = .ok entries) : entries.WellFormed := by
  unfold list reach at h
  split at h
  · rename_i hfound
    cases h
    obtain ⟨parts, place, _, hw⟩ := walkTo_of_find hfound
    have hwf : (Entry.folder entries).WellFormed := at?_wellFormed hd (walkTo_at? hw)
    exact hwf
  all_goals cases h

/-! ## A dot in front -/

theorem Path.dotted_cases (p : Path) : p.dotted = p ∨ p = ⟨"", []⟩ ∧ p.dotted = ⟨"", ["."]⟩ := by
  obtain ⟨anchor, parts⟩ := p
  unfold dotted
  split
  · rename_i hempty
    simp only [Bool.and_eq_true, beq_iff_eq, List.isEmpty_iff] at hempty
    exact Or.inr ⟨by rw [hempty.1, hempty.2], rfl⟩
  · exact Or.inl rfl

theorem Path.dotted_of_parts {p : Path} (h : p.parts ≠ []) : p.dotted = p := by
  simp [dotted, h]

theorem Path.text_dotted (p : Path) : p.dotted.text = p.text := by
  rcases p.dotted_cases with h | ⟨rfl, h⟩
  · rw [h]
  · rw [h]
    decide

/-- The text of a path is the end of the text it has with its dot. -/
theorem Path.text_dotted_append (p : Path) (place : List String) :
    ∃ front, (p.dotted.append place).text = front ++ (p.append place).text := by
  rcases p.dotted_cases with h | ⟨rfl, h⟩
  · exact ⟨"", by rw [h, String.empty_append]⟩
  · rw [h]
    cases place with
    | nil => exact ⟨"", rfl⟩
    | cons name rest => exact ⟨"./", by simp [append, text, String.intercalate_cons_cons]⟩

/-- The end of a text that can be a path can be one. -/
theorem textError?_append {front path : String} (h : textError? (front ++ path) = none) :
    textError? path = none := by
  unfold textError? at h ⊢
  simp only [List.contains_iff_mem, String.toList_append, List.mem_append, String.utf8ByteSize_append] at h ⊢
  split at h
  · cases h
  · rename_i hnull
    rw [not_or] at hnull
    split at h
    · cases h
    · rw [if_neg hnull.2, if_neg (by omega)]

/-- A dot in front does not change where a path leads, unless it makes the path too long. -/
theorem find_dotted_append {d : Disk} {p : Path} {place : List String}
    (h : textError? (p.dotted.append place).text = none) (follow : Bool) :
    d.find follow (p.dotted.append place) = d.find follow (p.append place) := by
  obtain ⟨front, htext⟩ := p.text_dotted_append place
  have hplain : textError? (p.append place).text = none := textError?_append (by rw [← htext]; exact h)
  rcases p.dotted_cases with hp | ⟨rfl, hp⟩
  · rw [hp]
  · rw [hp] at h ⊢
    simp only [Path.append, List.nil_append, List.singleton_append] at h hplain ⊢
    have hskip : walkTo d.root follow maxLinks [] ("." :: place) = walkTo d.root follow maxLinks [] place :=
      walkTo_skip place rfl
    simp only [find, h, hplain, inside?, BEq.rfl, ↓reduceIte, hskip]

theorem find_of_dotted {d : Disk} {p : Path} {place : List String} {follow : Bool} {e : Entry}
    (h : d.find follow (p.dotted.append place) = .ok e) : d.find follow (p.append place) = .ok e := by
  rw [← find_dotted_append (textError?_of_find h)]
  exact h

/-- A path leads with its dot where it leads without. -/
theorem find_dotted (d : Disk) (follow : Bool) (p : Path) : d.find follow (p.dotted.append []) = d.find follow p := by
  have hnil : p.append [] = p := by simp [Path.append]
  rcases p.dotted_cases with h | ⟨rfl, h⟩
  · rw [h, hnil]
  · rw [find_dotted_append (by rw [h]; decide), hnil]

theorem list_dotted (d : Disk) (p : Path) : d.list (p.dotted.append []) = d.list p := by
  rw [list, reach, find_dotted]
  rfl

/-! ## The entries of a listing -/

/-- Why a path with one more name behind it is refused, whatever stands there. -/
def refusal? (p : Path) (name : String) : Option AccessError :=
  match textError? (p.append [name]).text with
  | some err => some err
  | none => if isLongName name then some .nameTooLong else none

section Listing

variable {d : Disk} (hd : d.root.WellFormed) {p : Path} {entries : Folder} {name : String}
  (hp : d.reach p = .ok (.folder entries))
include hd hp

/-- A path through a listed folder is followed from that folder, unless it is refused. -/
theorem find_through {e : Entry} (h : (name, e) ∈ entries) :
    ∃ hops place, d.root.at? (name :: place).reverse = some e ∧ ∀ follow,
      d.find follow (p.append [name]) = match refusal? p name with
        | some err => .error err
        | none => (walkTo d.root follow hops place [name]).map (·.2) := by
  obtain ⟨parts, place, hin, hw⟩ := walkTo_of_find hp
  have hat := walkTo_at? hw
  obtain ⟨hops, happ⟩ := walkTo_append hw
  have hwf : Folder.WellFormed entries := at?_wellFormed hd hat
  obtain ⟨hne, hdot, hdots, _⟩ := hwf.isName h
  refine ⟨hops, place, by rw [List.reverse_cons, at?_snoc hat, hwf.find? h], fun follow => ?_⟩
  simp only [find, inside?_append hin, happ _ [name] (by simp), refusal?]
  cases textError? (p.append [name]).text with
  | some err => rfl
  | none =>
    by_cases hl : isLongName name = true
    · rw [walkTo_long [] (by simp [hne, hdot]) (by simp [hdots]) hl, if_pos hl]
      rfl
    · rw [if_neg hl]

theorem find_refused {e : Entry} (h : (name, e) ∈ entries) {err : AccessError}
    (hr : refusal? p name = some err) (follow : Bool) : d.find follow (p.append [name]) = .error err := by
  obtain ⟨hops, place, _, hfind⟩ := find_through hd hp h
  rw [hfind, hr]

/-- A path through a listed folder that is not refused leads to the entry of the listing, if no link
at the end is to be followed. -/
theorem find_allowed {e : Entry} (h : (name, e) ∈ entries) (hr : refusal? p name = none) (follow : Bool)
    (he : follow = true → e.isFolder = true) : d.find follow (p.append [name]) = .ok e := by
  obtain ⟨hops, place, hfound, hfind⟩ := find_through hd hp h
  obtain ⟨hne, hdot, hdots, _⟩ := (list_wellFormed hd (by rw [list, hp])).isName h
  have hn : ¬(name == "" || name == ".") = true := by simp [hne, hdot]
  have hu : ¬(name == "..") = true := by simp [hdots]
  have hl : ¬isLongName name = true := by
    intro hl
    unfold refusal? at hr
    split at hr
    · cases hr
    · simp [hl] at hr
  rw [hfind, hr]
  cases e with
  | folder es =>
    rw [walkTo_folder [] hn hu hl hfound, walkTo_nil hfound]
    rfl
  | file bytes =>
    rw [walkTo_lastFile hn hu hl hfound]
    rfl
  | link target =>
    cases follow with
    | true => simp [Entry.isFolder] at he
    | false =>
      rw [walkTo_lastLink hn hu hl hfound]
      rfl

/-- A path through a listed folder leads to the entry of the listing, or is refused. -/
theorem find_entry (follow : Bool) {e : Entry} (h : (name, e) ∈ entries)
    (he : follow = true → e.isFolder = true) :
    d.find follow (p.append [name]) = .ok e ∨
      ∃ err, ∀ follow, d.find follow (p.append [name]) = .error err := by
  cases hr : refusal? p name with
  | none => exact Or.inl (find_allowed hd hp h hr follow he)
  | some err => exact Or.inr ⟨err, find_refused hd hp h hr⟩

/-- A folder of a listing is listed as it stands there, or not at all. -/
theorem list_folder {es : Folder} (h : (name, .folder es) ∈ entries) :
    d.list (p.append [name]) = .ok es ∨ ∃ err, d.list (p.append [name]) = .error err := by
  unfold list reach
  rcases find_entry hd hp true h (fun _ => rfl) with hf | ⟨err, hf⟩
  · exact Or.inl (by rw [hf])
  · exact Or.inr ⟨err, by rw [hf]⟩

/-- A folder of a listing is no link. -/
theorem isLink_folder {es : Folder} (h : (name, .folder es) ∈ entries) :
    d.isLink (p.append [name]) = false := by
  unfold isLink
  rcases find_entry hd hp false h (by simp) with hf | ⟨err, hf⟩
  · rw [hf]
  · rw [hf]

/-- A link of a listing that leads to a folder is a link. -/
theorem isLink_link {target : String} (h : (name, .link target) ∈ entries)
    (hf : d.isFolder (p.append [name]) = true) :
    d.isLink (p.append [name]) = true := by
  rcases find_entry hd hp false h (by simp) with hl | ⟨err, hl⟩
  · unfold isLink
    rw [hl]
  · unfold isFolder reach at hf
    rw [hl] at hf
    simp at hf

end Listing

end DartSurvey.Disk
