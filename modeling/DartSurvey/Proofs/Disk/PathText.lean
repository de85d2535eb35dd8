import DartSurvey.Proofs.Disk.Below

/-!
# The text of a path

A slash divides the pieces of a text (`pieces_append`), and its components (`components_append`); joined by
slashes the pieces make the text up again (`intercalate_names`). Components without a slash are read back from
the text that joins them by slashes (`names_intercalate`), so a name is a path of one component
(`ofString_name`), and behind one path different components make different texts (`text_append_inj`). A path
that was read from a text, with names behind it, is read back from its own text (`ofString_text_append`).
-/

namespace DartSurvey.Disk.Path

theorem pieces_of_not_mem {cs : List Char} (h : '/' ∉ cs) : pieces cs = [cs] := by
  induction cs with
  | nil => rfl
  | cons c cs ih =>
    rw [List.mem_cons, not_or] at h
    obtain ⟨hc, hcs⟩ := h
    have hne : ¬(c == '/') = true := by simpa using Ne.symm hc
    rw [pieces, if_neg hne, ih hcs]

theorem pieces_ne_nil (cs : List Char) : pieces cs ≠ [] := by
  cases cs with
  | nil => exact List.cons_ne_nil _ _
  | cons c cs =>
    rw [pieces]
    split
    · exact List.cons_ne_nil _ _
    · split <;> exact List.cons_ne_nil _ _

/-- A slash divides the pieces of a text. -/
theorem pieces_append (cs rest : List Char) : pieces (cs ++ '/' :: rest) = pieces cs ++ pieces rest := by
  induction cs with
  | nil => rfl
  | cons c cs ih =>
    rw [List.cons_append, pieces, pieces, ih]
    obtain ⟨p, ps, hpieces⟩ := List.exists_cons_of_ne_nil (pieces_ne_nil cs)
    rw [hpieces]
    split
    · rfl
    · rfl

/-- Up to the first slash a text is one piece. -/
theorem pieces_append_slash {cs : List Char} (h : '/' ∉ cs) (rest : List Char) :
    pieces (cs ++ '/' :: rest) = cs :: pieces rest := by
  rw [pieces_append, pieces_of_not_mem h, List.singleton_append]

/-- The pieces of a text make it up again. -/
theorem intercalate_names (s : String) : String.intercalate "/" (names s) = s := by
  have hjoin : ∀ cs : List Char, String.intercalate "/" ((pieces cs).map String.ofList) = String.ofList cs := by
    intro cs
    induction cs with
    | nil => rfl
    | cons c cs ih =>
      obtain ⟨p, ps, hpieces⟩ := List.exists_cons_of_ne_nil (pieces_ne_nil cs)
      have hcons : ∀ cs : List Char, String.ofList (c :: cs) = String.ofList [c] ++ String.ofList cs := by
        intro cs
        rw [← String.ofList_append, List.singleton_append]
      rw [hpieces, List.map_cons] at ih
      rw [pieces, hpieces, hcons cs, ← ih]
      by_cases hc : (c == '/') = true
      · have hslash : String.ofList [c] = "/" := by rw [beq_iff_eq.mp hc]
        rw [if_pos hc, List.map_cons, List.map_cons, String.intercalate_cons_cons, hslash, String.ofList_nil,
          String.empty_append]
      · rw [if_neg hc, List.map_cons, hcons p, String.intercalate_cons_append]
  rw [names, hjoin, String.ofList_toList]

/-- Joining components by slashes loses nothing. -/
theorem names_intercalate {parts : List String} (hne : parts ≠ []) (h : ∀ s ∈ parts, '/' ∉ s.toList) :
    names (String.intercalate "/" parts) = parts := by
  induction parts with
  | nil => exact absurd rfl hne
  | cons s rest ih =>
    have hs : '/' ∉ s.toList := h s List.mem_cons_self
    cases rest with
    | nil => simp [names, pieces_of_not_mem hs]
    | cons t rest =>
      have hrest := ih (List.cons_ne_nil t rest) fun x hx => h x (List.mem_cons_of_mem s hx)
      have hslash : "/".toList = ['/'] := by decide
      rw [String.intercalate_cons_cons, names, String.toList_append, String.toList_append, hslash,
        List.append_assoc, List.singleton_append, pieces_append_slash hs, List.map_cons,
        String.ofList_toList]
      exact congrArg (s :: ·) hrest

/-- A name is the path to what it names. -/
theorem ofString_name {s : String} (h : IsName s) : ofString s = ⟨"", [s]⟩ := by
  obtain ⟨hempty, hdot, _, hslash⟩ := h
  have hanchor : anchorOf s = "" := by
    unfold anchorOf
    split <;> simp_all
  have hnames : names s = [s] := by simp [names, pieces_of_not_mem hslash]
  simp [ofString, hanchor, components, hnames, hempty, hdot]

/-- The text of a path with components behind it. -/
theorem text_append (p : Path) {place : List String} (h : place ≠ []) :
    (p.append place).text = p.anchor ++ String.intercalate "/" (p.parts ++ place) := by
  simp [text, append, h]

/-- Different components make different texts behind one path. -/
theorem text_append_inj {p : Path} {place place' : List String} (hne : place ≠ []) (hne' : place' ≠ [])
    (h : ∀ s ∈ place, '/' ∉ s.toList) (h' : ∀ s ∈ place', '/' ∉ s.toList)
    (htext : (p.append place).text = (p.append place').text) : place = place' := by
  rw [text_append p hne, text_append p hne'] at htext
  have hjoined : String.intercalate "/" place = String.intercalate "/" place' := by
    have hparts := String.append_right_inj _ |>.mp htext
    by_cases hp : p.parts = []
    · simpa [hp] using hparts
    · rw [String.intercalate_append_of_ne_nil hp hne, String.intercalate_append_of_ne_nil hp hne'] at hparts
      exact String.append_right_inj _ |>.mp hparts
  rw [← names_intercalate hne h, hjoined, names_intercalate hne' h']

/-! ## Reading a text back -/

/-- A text that can be a component of a path. -/
def IsComponent (s : String) : Prop := s ≠ "" ∧ s ≠ "." ∧ '/' ∉ s.toList

theorem not_mem_of_mem_pieces {cs piece : List Char} (h : piece ∈ pieces cs) : '/' ∉ piece := by
  induction cs generalizing piece with
  | nil =>
    rw [pieces, List.mem_singleton] at h
    rw [h]
    exact List.not_mem_nil
  | cons c cs ih =>
    rw [pieces] at h
    split at h
    · rcases List.mem_cons.mp h with rfl | h
      · exact List.not_mem_nil
      · exact ih h
    · rename_i hc
      have hne : ¬c = '/' := fun heq => hc (by simp [heq])
      split at h
      · rw [List.mem_singleton.mp h]
        simpa using Ne.symm hne
      · rename_i first rest hpieces
        rcases List.mem_cons.mp h with rfl | h
        · have hfirst : '/' ∉ first := ih (by rw [hpieces]; exact List.mem_cons_self)
          simp [Ne.symm hne, hfirst]
        · exact ih (by rw [hpieces]; exact List.mem_cons_of_mem first h)

theorem isComponent_of_mem {text s : String} (h : s ∈ components text) : IsComponent s := by
  obtain ⟨hmem, hkept⟩ := List.mem_filter.mp h
  obtain ⟨piece, hpiece, rfl⟩ := List.mem_map.mp hmem
  simp only [Bool.and_eq_true, bne_iff_ne] at hkept
  exact ⟨hkept.1, hkept.2, by simpa using not_mem_of_mem_pieces hpiece⟩

theorem anchorOf_cases (s : String) : anchorOf s = "" ∨ anchorOf s = "/" ∨ anchorOf s = "//" := by
  unfold anchorOf
  split <;> simp

/-- A slash in front of a text makes an empty piece only. -/
theorem components_slash (s : String) : components ("/" ++ s) = components s := by
  have hslash : ("/" : String).toList = ['/'] := by decide
  rw [components, names, String.toList_append, hslash, List.singleton_append, pieces, if_pos (beq_self_eq_true '/')]
  rfl

/-- A slash divides the components of a text. -/
theorem components_append (s t : String) : components (s ++ "/" ++ t) = components s ++ components t := by
  have hslash : ("/" : String).toList = ['/'] := by decide
  simp only [components, names, String.toList_append, hslash, List.append_assoc, List.singleton_append, pieces_append,
    List.map_append, List.filter_append]

theorem components_intercalate {parts : List String} (hne : parts ≠ []) (h : ∀ s ∈ parts, IsComponent s) :
    components (String.intercalate "/" parts) = parts := by
  rw [components, names_intercalate hne fun s hs => (h s hs).2.2, List.filter_eq_self]
  intro s hs
  simp [(h s hs).1, (h s hs).2.1]

/-- Joined components start with a character of the first. -/
theorem intercalate_head {parts : List String} (hne : parts ≠ []) (h : ∀ s ∈ parts, IsComponent s) :
    ∃ c cs, (String.intercalate "/" parts).toList = c :: cs ∧ c ≠ '/' := by
  cases parts with
  | nil => exact absurd rfl hne
  | cons s rest =>
    obtain ⟨hempty, _, hslash⟩ := h s List.mem_cons_self
    cases hs : s.toList with
    | nil => exact absurd (String.toList_eq_nil_iff.mp hs) hempty
    | cons c cs =>
      have hc : c ≠ '/' := by
        rintro rfl
        exact hslash (by rw [hs]; exact List.mem_cons_self)
      cases rest with
      | nil => exact ⟨c, cs, by simpa using hs, hc⟩
      | cons t rest =>
        refine ⟨c, cs ++ ("/" ++ String.intercalate "/" (t :: rest)).toList, ?_, hc⟩
        rw [String.intercalate_cons_cons, String.append_assoc, String.toList_append, hs, List.cons_append]

/-- A path is read back from its text. -/
theorem ofString_text {p : Path} (hanchor : p.anchor = "" ∨ p.anchor = "/" ∨ p.anchor = "//")
    (hne : p.parts ≠ []) (h : ∀ s ∈ p.parts, IsComponent s) : ofString p.text = p := by
  obtain ⟨c, cs, hhead, hc⟩ := intercalate_head hne h
  have hcomponents := components_intercalate hne h
  have htext : p.text = p.anchor ++ String.intercalate "/" p.parts := by simp [text, hne]
  have hslash : ("/" : String).toList = ['/'] := by decide
  have hslashes : ("//" : String).toList = ['/', '/'] := by decide
  obtain ⟨anchor, parts⟩ := p
  simp only at hanchor hcomponents htext hhead
  rw [htext, ofString]
  rcases hanchor with rfl | rfl | rfl
  · rw [String.empty_append, hcomponents, anchorOf, hhead]
    simp [hc]
  · rw [components_slash, hcomponents, anchorOf, String.toList_append, hslash, hhead]
    simp [hc]
  · have htwo : "//" ++ String.intercalate "/" parts = "/" ++ ("/" ++ String.intercalate "/" parts) := by
      rw [← String.append_assoc]
      rfl
    rw [htwo, components_slash, components_slash, ← htwo, hcomponents, anchorOf, String.toList_append, hslashes,
      hhead]
    simp [hc]

/-- The text of a path that was read has the components of what it was read from. -/
theorem components_text (s : String) : components (ofString s).text = components s := by
  by_cases hparts : components s = []
  · have htext : (ofString s).text = "." ∨ (ofString s).text = "/" ∨ (ofString s).text = "//" := by
      rcases anchorOf_cases s with h | h | h
      · exact Or.inl (by simp [ofString, text, h, hparts])
      · exact Or.inr (Or.inl (by simp [ofString, text, h, hparts]))
      · exact Or.inr (Or.inr (by simp [ofString, text, h, hparts]))
    rw [hparts]
    rcases htext with h | h | h
    · rw [h]
      decide
    · rw [h]
      decide
    · rw [h]
      decide
  · have hread : ofString (ofString s).text = ofString s :=
      ofString_text (anchorOf_cases s) hparts fun p hp => isComponent_of_mem hp
    exact congrArg Path.parts hread

/-- The path of a place below a directory is read back from its text. -/
theorem ofString_text_append (root : String) {place : List String} (hne : place ≠ [])
    (h : ∀ s ∈ place, IsName s) :
    ofString ((ofString root).append place).text = (ofString root).append place := by
  refine ofString_text (anchorOf_cases root) ?_ ?_
  · exact List.append_ne_nil_of_right_ne_nil _ hne
  · intro s hs
    rcases List.mem_append.mp hs with hs | hs
    · exact isComponent_of_mem hs
    · obtain ⟨hempty, hdot, _, hslash⟩ := h s hs
      exact ⟨hempty, hdot, hslash⟩

end DartSurvey.Disk.Path
