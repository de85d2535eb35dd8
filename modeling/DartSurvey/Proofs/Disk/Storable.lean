import DartSurvey.Proofs.Disk.PathText

/-!
# Names that a file system holds

No name on a disk holds the character U+0000, and none is longer than a name may be (`Folder.Storable`).
So a path through a listed folder with a name of its listing behind it can be refused for its own length
only (`refusal?_of_storable`). That length is bounded by the lengths of its parts (`size_text_append_le`).
-/

namespace DartSurvey.Disk

/-- A name that a folder can hold. -/
def CanStore (name : String) : Prop := '\x00' ∉ name.toList ∧ isLongName name = false

mutual

/-- An entry with no name below it that a folder cannot hold. -/
def Entry.Storable : Entry → Prop
  | .file _ => True
  | .link _ => True
  | .folder entries => Folder.Storable entries

/-- A folder with no name in it or below it that a folder cannot hold. -/
def Folder.Storable : Folder → Prop
  | [] => True
  | (name, e) :: rest => CanStore name ∧ e.Storable ∧ Folder.Storable rest

end

theorem Folder.Storable.mem {f : Folder} (hf : f.Storable) {name : String} {e : Entry}
    (h : (name, e) ∈ f) : CanStore name ∧ e.Storable := by
  induction f with
  | nil => simp at h
  | cons x rest ih =>
    obtain ⟨n, a⟩ := x
    obtain ⟨hn, ha, hr⟩ := hf
    rcases List.mem_cons.mp h with h | h
    · cases h
      exact ⟨hn, ha⟩
    · exact ih hr h

/-! ## The text of a longer path -/

theorem text_append_name (p : Path) (name : String) :
    (p.append [name]).text = (if p.parts = [] then p.anchor else p.text ++ "/") ++ name := by
  rw [Path.text_append p (List.cons_ne_nil name [])]
  by_cases hparts : p.parts = []
  · simp [hparts]
  · have htext : p.text = p.anchor ++ String.intercalate "/" p.parts := by simp [Path.text, hparts]
    rw [if_neg hparts, String.intercalate_append_of_ne_nil hparts (List.cons_ne_nil name []), htext,
      String.intercalate_singleton]
    simp only [String.append_assoc]

theorem not_mem_text_append {p : Path} {name : String} (hp : '\x00' ∉ p.text.toList)
    (hn : '\x00' ∉ name.toList) : '\x00' ∉ (p.append [name]).text.toList := by
  rw [text_append_name, String.toList_append, List.mem_append, not_or]
  refine ⟨?_, hn⟩
  split
  · rename_i hparts
    by_cases hanchor : p.anchor = ""
    · rw [hanchor]
      decide
    · simpa [Path.text, hparts, hanchor] using hp
  · have hslash : '\x00' ∉ "/".toList := by decide
    rw [String.toList_append, List.mem_append, not_or]
    exact ⟨hp, hslash⟩

/-- A longer path is refused for its length only, if the path before was accepted. -/
theorem refusal?_of_storable {p : Path} {name : String} (hp : textError? p.text = none) (hn : CanStore name) :
    refusal? p name =
      if pathLimit ≤ (p.append [name]).text.utf8ByteSize then some .nameTooLong else none := by
  have hnull : '\x00' ∉ p.text.toList := by
    intro h
    simp [textError?, h] at hp
  have hlonger := not_mem_text_append hnull hn.1
  unfold refusal? textError?
  rw [if_neg (by simpa using hlonger)]
  by_cases hlong : pathLimit ≤ (p.append [name]).text.utf8ByteSize
  · simp [hlong]
  · simp [hlong, hn.2]

/-- A dot in front makes a path no shorter. -/
theorem size_text_le_dotted (p : Path) (place : List String) :
    (p.append place).text.utf8ByteSize ≤ (p.dotted.append place).text.utf8ByteSize := by
  obtain ⟨front, htext⟩ := p.text_dotted_append place
  rw [htext, String.utf8ByteSize_append]
  omega

/-- The length of the path of a place below a directory. -/
theorem size_text_append_le (p : Path) {place : List String} (h : place ≠ []) :
    (p.append place).text.utf8ByteSize ≤ (p.text ++ "/" ++ String.intercalate "/" place).utf8ByteSize := by
  rw [Path.text_append p h]
  by_cases hparts : p.parts = []
  · by_cases hanchor : p.anchor = ""
    · simp only [hparts, hanchor, List.nil_append, String.utf8ByteSize_append]
      simp
    · have htext : p.text = p.anchor := by simp [Path.text, hparts, hanchor]
      simp only [hparts, htext, List.nil_append, String.utf8ByteSize_append]
      omega
  · have htext : p.text = p.anchor ++ String.intercalate "/" p.parts := by simp [Path.text, hparts]
    rw [String.intercalate_append_of_ne_nil hparts h, htext]
    simp only [String.utf8ByteSize_append]
    omega

end DartSurvey.Disk
