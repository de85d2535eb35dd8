import DartSurvey.Proofs.Disk.Below

/-!
# Paths through folders

A path that goes through folders alone leads where the tree says, without a look at links.

- `walkTo_through`: what is left of a way behind folders is followed from the last of them; so the path
  leads to the folder (`find_folder`), to a file in it (`find_file`), or nowhere (`find_missing`).
- `canonicalFrom_through`: the same for canonical places, so what stands in the last folder and is no link
  is its own canonical place (`canonical_last`).
-/

namespace DartSurvey.Disk

/-- Whether a name can stand in a folder, and is looked for there. -/
def isPlainName (name : String) : Bool := name != "" && name != "." && name != ".." && !isLongName name

theorem isPlainName_iff {name : String} :
    isPlainName name = true ↔
      ¬(name == "" || name == ".") = true ∧ ¬(name == "..") = true ∧ ¬isLongName name = true := by
  simp [isPlainName, and_assoc]

/-- What stands at a path stands below the folder at the beginning of the path. -/
theorem at?_append {f : Folder} {path more : List String} {e : Entry} (h : f.at? (path ++ more) = some e)
    (hmore : more ≠ []) : ∃ entries, f.at? path = some (.folder entries) := by
  induction path generalizing f with
  | nil => exact ⟨f, rfl⟩
  | cons name path ih =>
    rw [List.cons_append, at?_cons] at h
    rw [at?_cons]
    cases hfound : f.find? name with
    | none => simp [hfound] at h
    | some found =>
      cases found with
      | folder entries => exact ih (by simpa [hfound] using h)
      | file bytes => simp [hfound, hmore] at h
      | link target => simp [hfound, hmore] at h

/-- On the way to a folder there are folders alone. -/
theorem at?_first {root entries : Folder} {here rest : List String} {name : String}
    (h : root.at? (here.reverse ++ name :: rest) = some (.folder entries)) :
    ∃ es, root.at? (name :: here).reverse = some (.folder es) := by
  rw [List.append_cons] at h
  rw [List.reverse_cons]
  by_cases hrest : rest = []
  · exact ⟨entries, by simpa [hrest] using h⟩
  · exact at?_append h hrest

section Walk

variable {root entries : Folder} {follow : Bool} {hops : Nat} {here parts : List String}

/-- Behind folders a way is followed from the last of them. -/
theorem walkTo_through (hparts : parts.all isPlainName = true)
    (h : root.at? (here.reverse ++ parts) = some (.folder entries)) (more : List String) :
    walkTo root follow hops here (parts ++ more) = walkTo root follow hops (parts.reverse ++ here) more := by
  induction parts generalizing here with
  | nil => rfl
  | cons name rest ih =>
    rw [List.all_cons, Bool.and_eq_true] at hparts
    obtain ⟨hname, hdots, hlong⟩ := isPlainName_iff.mp hparts.1
    obtain ⟨es, hes⟩ := at?_first h
    rw [List.append_cons, ← List.reverse_cons] at h
    rw [List.cons_append, walkTo_folder _ hname hdots hlong hes, ih hparts.2 h, List.reverse_cons,
      List.append_assoc, List.singleton_append]

theorem walkTo_missing {name : String} (hname : isPlainName name = true) {rest : List String}
    (h : root.at? (name :: here).reverse = none) :
    walkTo root follow hops here (name :: rest) = .error .missing := by
  obtain ⟨hn, hd, hl⟩ := isPlainName_iff.mp hname
  rw [walkTo.eq_def]
  simp only [hn, hd, hl, h, Bool.false_eq_true, ↓reduceIte]

end Walk

section Find

variable {d : Disk} {entries : Folder} {parts : List String} {name : String} {follow : Bool}

theorem find_relative (htext : textError? (Path.mk "" parts).text = none) :
    d.find follow ⟨"", parts⟩ = (walkTo d.root follow maxLinks [] parts).map (·.2) := by
  simp [find, htext, inside?]

/-- What stands in a folder under a name. -/
theorem at?_last (hfolder : d.root.at? parts = some (.folder entries)) (name : String) :
    d.root.at? (name :: parts.reverse).reverse = entries.find? name := by
  rw [List.reverse_cons, List.reverse_reverse, at?_snoc hfolder]

variable (parts name) (hparts : parts.all isPlainName = true)
  (hfolder : d.root.at? parts = some (.folder entries))

include hparts hfolder

/-- A path through folders is followed from the last of them. -/
theorem walkTo_behind (more : List String) :
    walkTo d.root follow maxLinks [] (parts ++ more) = walkTo d.root follow maxLinks parts.reverse more := by
  have hroot : d.root.at? (([] : List String).reverse ++ parts) = some (.folder entries) := hfolder
  rw [walkTo_through hparts hroot, List.append_nil]

/-- A path through folders leads to the last of them. -/
theorem find_folder (htext : textError? (Path.mk "" parts).text = none) :
    d.find follow ⟨"", parts⟩ = .ok (.folder entries) := by
  rw [find_relative htext, ← List.append_nil parts, walkTo_behind parts hparts hfolder,
    walkTo_nil (by rwa [List.reverse_reverse])]
  rfl

/-- A path through folders leads to a file in the last of them. -/
theorem find_file (hname : isPlainName name = true) {bytes : List UInt8}
    (hfile : entries.find? name = some (.file bytes))
    (htext : textError? (Path.mk "" (parts ++ [name])).text = none) :
    d.find follow ⟨"", parts ++ [name]⟩ = .ok (.file bytes) := by
  obtain ⟨hn, hd, hl⟩ := isPlainName_iff.mp hname
  have hat := (at?_last hfolder name).trans hfile
  rw [find_relative htext, walkTo_behind parts hparts hfolder, walkTo_lastFile hn hd hl hat]
  rfl

/-- A path through folders leads nowhere if the last of them has nothing of the name. -/
theorem find_missing (hname : isPlainName name = true) (hnone : entries.find? name = none)
    (htext : textError? (Path.mk "" (parts ++ [name])).text = none) :
    d.find follow ⟨"", parts ++ [name]⟩ = .error .missing := by
  have hat := (at?_last hfolder name).trans hnone
  rw [find_relative htext, walkTo_behind parts hparts hfolder, walkTo_missing hname hat]
  rfl

end Find

/-! ## Canonical places -/

section Canonical

variable {root entries : Folder} {hops : Nat} {trail : Trail} {here parts : List String} {name : String}
  {rest : List Step}

/-- A name that is not that of a link is taken as it is. -/
theorem canonicalFrom_plain (hname : isPlainName name = true)
    (h : ∀ target, root.at? (name :: here).reverse ≠ some (.link target)) :
    canonicalFrom root hops trail here (.name name :: rest) = canonicalFrom root hops trail (name :: here) rest := by
  obtain ⟨hn, hd, _⟩ := isPlainName_iff.mp hname
  rw [canonicalFrom.eq_def]
  simp only [hn, hd, Bool.false_eq_true, ↓reduceIte]

theorem canonicalFrom_up :
    canonicalFrom root hops trail here (.name ".." :: rest) = canonicalFrom root hops trail (here.drop 1) rest := by
  rw [canonicalFrom.eq_def]
  rfl

/-- Behind folders a canonical place is found from the last of them. -/
theorem canonicalFrom_through (hparts : parts.all isPlainName = true)
    (h : root.at? (here.reverse ++ parts) = some (.folder entries)) (more : List String) :
    canonicalFrom root hops trail here ((parts ++ more).map .name)
      = canonicalFrom root hops trail (parts.reverse ++ here) (more.map .name) := by
  induction parts generalizing here with
  | nil => rfl
  | cons name rest ih =>
    rw [List.all_cons, Bool.and_eq_true] at hparts
    obtain ⟨es, hes⟩ := at?_first h
    rw [List.append_cons, ← List.reverse_cons] at h
    rw [List.cons_append, List.map_cons, canonicalFrom_plain hparts.1 (by rw [hes]; simp), ih hparts.2 h,
      List.reverse_cons, List.append_assoc, List.singleton_append]

/-- The canonical place of what stands in a folder, be it a file or nothing. -/
theorem canonical_last {d : Disk} (hparts : parts.all isPlainName = true)
    (hfolder : d.root.at? parts = some (.folder entries)) (hname : isPlainName name = true)
    (h : ∀ target, entries.find? name ≠ some (.link target)) :
    d.canonical (parts ++ [name]) = parts ++ [name] := by
  have hroot : d.root.at? (([] : List String).reverse ++ parts) = some (.folder entries) := hfolder
  have hlast : ∀ target, d.root.at? (name :: parts.reverse).reverse ≠ some (.link target) := by
    rw [at?_last hfolder]
    exact h
  rw [canonical, canonicalFrom_through hparts hroot, List.append_nil, List.map_singleton,
    canonicalFrom_plain hname hlast, canonicalFrom, List.reverse_cons, List.reverse_reverse]

end Canonical

end DartSurvey.Disk
