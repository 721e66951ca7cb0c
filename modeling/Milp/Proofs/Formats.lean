import Mathlib.Data.List.Infix
import Milp.Datum
import Milp.Template

/-!
# Format strings

A format string is split at its placeholders, and joining the pieces with placeholders gives it back.
No two placeholders overlap, and none arises at a seam: a piece may end in the first character of a
placeholder or begin with the last one. So segments without placeholders are what the string that
they are joined to is split into, and there is one more of them than placeholders are found from left
to right: `Template.format_inverse`.
-/

namespace Milp

/-! ### Finding from left to right -/

/-- **How often a word is found** from left to right: each time at the first place where it stands,
and from there on in what is behind it. -/
inductive Finds (word : List Char) : List Char → Nat → Prop
  | none {cs : List Char} : ¬ word <:+: cs → Finds word cs 0
  | next {cs before after : List Char} {n : Nat} : cs = before ++ (word ++ after) →
      (∀ before' after', cs = before' ++ (word ++ after') → before.length ≤ before'.length) →
      Finds word after n → Finds word cs (n + 1)

section Words

variable {word cs before after : List Char}

theorem isInfix_append_append (before word after : List Char) :
    word <:+: before ++ (word ++ after) := ⟨before, after, List.append_assoc ..⟩

theorem Finds.unique {m n : Nat} (hm : Finds word cs m) (hn : Finds word cs n) : m = n := by
  induction hm generalizing n with
  | none hnot =>
    cases hn with
    | none => rfl
    | next hcs => exact absurd (hcs ▸ isInfix_append_append ..) hnot
  | next hcs hfirst _ ih =>
    cases hn with
    | none hnot => exact absurd (hcs ▸ isInfix_append_append ..) hnot
    | next hcs' hfirst' hrest =>
      -- both are the first place
      have hlength := Nat.le_antisymm (hfirst _ _ hcs') (hfirst' _ _ hcs)
      obtain ⟨-, htail⟩ := List.append_inj (hcs.symm.trans hcs') hlength
      rw [ih (List.append_cancel_left htail ▸ hrest)]

end Words

namespace Template

/-! ### Placeholders -/

theorem toList_placeholder : placeholder.toList = ['\x7b', '\x7d'] := by decide

/-- **A placeholder that begins in front of another one ends in front of it.** -/
theorem placeholder_prefix_of_append {before rest : List Char} (hne : before ≠ [])
    (h : placeholder.toList <+: before ++ (placeholder.toList ++ rest)) :
    placeholder.toList <+: before := by
  rw [toList_placeholder] at *
  match before, hne with
  | [c], _ => simp [List.cons_prefix_cons] at h
  | c :: d :: before, _ =>
    simp only [List.cons_append, List.cons_prefix_cons] at h ⊢
    exact ⟨h.1, h.2.1, List.nil_prefix⟩

/-- The pieces of a text between its placeholders. -/
inductive Splits : List Char → List (List Char) → Prop
  | last {cs : List Char} : ¬ placeholder.toList <:+: cs → Splits cs [cs]
  | cut {before after : List Char} {pieces : List (List Char)} :
      ¬ placeholder.toList <:+: before → Splits after pieces →
      Splits (before ++ (placeholder.toList ++ after)) (before :: pieces)

theorem splitPieces_cons {c : Char} {cs : List Char} (h : ¬ placeholder.toList <+: c :: cs)
    (piece : List Char) : splitPieces piece (c :: cs) = splitPieces (c :: piece) cs := by
  rw [splitPieces]
  rintro ds rfl rfl
  exact h ⟨ds, by rw [toList_placeholder]; rfl⟩

theorem splitPieces_of_not_infix {cs : List Char} (h : ¬ placeholder.toList <:+: cs)
    (piece : List Char) : splitPieces piece cs = [piece.reverse ++ cs] := by
  induction cs generalizing piece with
  | nil => rw [splitPieces, List.append_nil]
  | cons c cs ih =>
    rw [List.infix_cons_iff, not_or] at h
    rw [splitPieces_cons h.1, ih h.2, List.reverse_cons, List.append_assoc]
    rfl

/-- The first placeholder ends the piece at hand. -/
theorem splitPieces_placeholder {before : List Char} (h : ¬ placeholder.toList <:+: before)
    (piece rest : List Char) : splitPieces piece (before ++ (placeholder.toList ++ rest)) =
      (piece.reverse ++ before) :: splitPieces [] rest := by
  induction before generalizing piece with
  | nil =>
    rw [toList_placeholder, List.append_nil]
    rfl
  | cons c before ih =>
    have hprefix : ¬ placeholder.toList <+: c :: (before ++ (placeholder.toList ++ rest)) :=
      fun hp => h (placeholder_prefix_of_append (List.cons_ne_nil c before) hp).isInfix
    rw [List.infix_cons_iff, not_or] at h
    rw [List.cons_append, splitPieces_cons hprefix, ih h.2, List.reverse_cons, List.append_assoc]
    rfl

namespace Splits

variable {cs : List Char} {pieces : List (List Char)}

theorem splitPieces_eq (h : Splits cs pieces) : splitPieces [] cs = pieces := by
  induction h with
  | last h => exact splitPieces_of_not_infix h []
  | cut h _ ih =>
    rw [splitPieces_placeholder h, ih]
    rfl

theorem not_infix (h : Splits cs pieces) : ∀ p ∈ pieces, ¬ placeholder.toList <:+: p := by
  induction h with
  | last h => exact List.forall_mem_singleton.2 h
  | cut h _ ih => exact List.forall_mem_cons.2 ⟨h, ih⟩

theorem ne_nil (h : Splits cs pieces) : pieces ≠ [] := by
  cases h with
  | last => exact List.cons_ne_nil _ _
  | cut => exact List.cons_ne_nil _ _

theorem intercalate_eq (h : Splits cs pieces) :
    List.intercalate placeholder.toList pieces = cs := by
  induction h with
  | last h => exact List.intercalate_singleton
  | @cut before after pieces _ hrest ih =>
    rw [List.intercalate_cons_of_ne_nil hrest.ne_nil, ih, List.append_assoc]

theorem of_pieces (hne : pieces ≠ []) (h : ∀ p ∈ pieces, ¬ placeholder.toList <:+: p) :
    Splits (List.intercalate placeholder.toList pieces) pieces := by
  induction pieces with
  | nil => exact absurd rfl hne
  | cons p pieces ih =>
    obtain ⟨hp, h⟩ := List.forall_mem_cons.1 h
    cases pieces with
    | nil =>
      rw [List.intercalate_singleton]
      exact .last hp
    | cons p' pieces =>
      rw [List.intercalate_cons_cons, List.append_assoc]
      exact .cut hp (ih (List.cons_ne_nil p' pieces) h)

theorem finds (h : Splits cs pieces) :
    ∃ n, pieces.length = n + 1 ∧ Finds placeholder.toList cs n := by
  induction h with
  | last h => exact ⟨0, rfl, .none h⟩
  | cut h _ ih =>
    obtain ⟨n, hn, hfinds⟩ := ih
    refine ⟨n + 1, by rw [List.length_cons, hn], .next rfl (fun before' after' heq => ?_) hfinds⟩
    obtain ⟨t, rfl, -⟩ | ⟨t, rfl, htail⟩ := List.append_eq_append_iff.1 heq
    · exact List.length_append ▸ Nat.le_add_right ..
    · -- an earlier one would have to end in what is between them
      by_contra hlt
      have hne : t ≠ [] := by
        rintro rfl
        rw [List.append_nil] at hlt
        exact hlt le_rfl
      have hfound : placeholder.toList <:+: t :=
        (placeholder_prefix_of_append hne (htail ▸ List.prefix_append ..)).isInfix
      exact h (hfound.trans (List.suffix_append before' t).isInfix)

end Splits

/-- The first of the placeholders. -/
theorem exists_cut {cs : List Char} (h : placeholder.toList <:+: cs) :
    ∃ before after, cs = before ++ (placeholder.toList ++ after) ∧
      ¬ placeholder.toList <:+: before := by
  have hnil : ¬ placeholder.toList <:+: [] := by decide
  induction cs with
  | nil => exact absurd h hnil
  | cons c cs ih =>
    by_cases hprefix : placeholder.toList <+: c :: cs
    · obtain ⟨after, hafter⟩ := hprefix
      exact ⟨[], after, hafter.symm, hnil⟩
    · obtain ⟨before, after, rfl, hbefore⟩ := ih ((List.infix_cons_iff.1 h).resolve_left hprefix)
      refine ⟨c :: before, after, rfl, fun hfound => ?_⟩
      obtain hp | hp := List.infix_cons_iff.1 hfound
      · exact hprefix (hp.trans (List.prefix_append (c :: before) _))
      · exact hbefore hp

theorem exists_splits (cs : List Char) : ∃ pieces, Splits cs pieces := by
  by_cases h : placeholder.toList <:+: cs
  · obtain ⟨before, after, rfl, hbefore⟩ := exists_cut h
    have hshorter : after.length < (before ++ (placeholder.toList ++ after)).length := by
      simp [toList_placeholder]
      omega
    obtain ⟨pieces, hpieces⟩ := exists_splits after
    exact ⟨before :: pieces, .cut hbefore hpieces⟩
  · exact ⟨[cs], .last h⟩
termination_by cs.length

theorem splits_splitPieces (cs : List Char) : Splits cs (splitPieces [] cs) := by
  obtain ⟨pieces, h⟩ := exists_splits cs
  rwa [h.splitPieces_eq]

/-! ### Format strings and segments -/

theorem toList_joined (separator : String) (ss : List String) :
    (joined separator ss).toList =
      List.intercalate separator.toList (ss.map String.toList) := by
  induction ss with
  | nil => rfl
  | cons s ss ih =>
    cases ss with
    | nil => rw [joined, List.map_cons, List.map_nil, List.intercalate_singleton]
    | cons s' ss =>
      rw [joined, String.toList_append, String.toList_append, ih, List.map_cons, List.map_cons,
        List.map_cons, List.intercalate_cons_cons]
      exact List.cons_ne_nil s' ss

/-- **A string is what its segments are joined to**, no segment has a placeholder, and there is one
more than placeholders are found. -/
theorem splitFormat_spec (source : String) :
    joined placeholder (splitFormat source) = source ∧
      (∀ s ∈ splitFormat source, ¬ placeholder.toList <:+: s.toList) ∧
      ∃ n, (splitFormat source).length = n + 1 ∧ Finds placeholder.toList source.toList n := by
  have h := splits_splitPieces source.toList
  have hlists : (splitFormat source).map String.toList = splitPieces [] source.toList := by
    rw [splitFormat, List.map_map]
    exact List.map_id'' (fun _ => String.toList_ofList) _
  refine ⟨?_, ?_, ?_⟩
  · rw [← String.toList_inj, toList_joined, hlists, h.intercalate_eq]
  · intro s hs
    exact h.not_infix _ (hlists ▸ List.mem_map_of_mem hs)
  · obtain ⟨n, hn, hfinds⟩ := h.finds
    exact ⟨n, by rw [splitFormat, List.length_map, hn], hfinds⟩

/-- **What segments without placeholders are joined to** is split into these segments. -/
theorem splitFormat_joined {segments : List String} (hne : segments ≠ [])
    (h : ∀ s ∈ segments, ¬ placeholder.toList <:+: s.toList) :
    splitFormat (joined placeholder segments) = segments := by
  have hpieces : Splits (joined placeholder segments).toList (segments.map String.toList) := by
    rw [toList_joined]
    exact .of_pieces (by simpa using hne) (List.forall_mem_map.2 h)
  rw [splitFormat, hpieces.splitPieces_eq, List.map_map]
  exact List.map_id'' (fun _ => String.ofList_toList) _

variable {ω : Type} {segments : List String} {operands : List ω}

theorem ofParts?_of_length (h : segments.length = operands.length + 1) :
    ∃ t, ofParts? segments operands = .ok t := by
  obtain ⟨first, rest, rfl⟩ := List.exists_cons_of_length_eq_add_one h
  exact ⟨_, if_pos (Nat.succ.inj h)⟩

theorem ofParts?_of_length_ne (h : segments.length ≠ operands.length + 1) :
    ofParts? segments operands = .error ⟨operands.length, segments.length⟩ := by
  cases segments with
  | nil => rfl
  | cons first rest => exact if_neg fun hlength => h (congrArg (· + 1) hlength)

/-- **A format string has a template** exactly if so many placeholders are found in it as there are
operands. -/
theorem ofFormat?_isOk_iff {source : String} :
    (∃ t, ofFormat? source operands = .ok t) ↔
      Finds placeholder.toList source.toList operands.length := by
  obtain ⟨-, -, n, hlength, hfinds⟩ := splitFormat_spec source
  constructor
  · rintro ⟨t, ht⟩
    by_contra hnot
    have hne : (splitFormat source).length ≠ operands.length + 1 := by
      rw [hlength]
      rintro heq
      exact hnot (Nat.succ.inj heq ▸ hfinds)
    rw [ofFormat?, ofParts?_of_length_ne hne] at ht
    exact nomatch ht
  · intro h
    exact ofParts?_of_length (by rw [hlength, hfinds.unique h])

theorem agrees_self {same : ω → ω → Bool} {t : Template ω} (h : ∀ o ∈ t.operands, same o o) :
    t.agrees same t := by
  simpa [agrees, List.zip] using h

/-- **Format strings and templates are inverse to each other.** Segments without placeholders that
are joined by placeholders give, with so many operands, the template of these segments. A string has
a template exactly if so many placeholders are found in it as there are operands; then its segments
are without placeholders and give the string when they are joined. Otherwise the numbers are
refused. -/
theorem format_inverse :
    (∀ (segments : List String) (operands : List ω), segments.length = operands.length + 1 →
      (∀ s ∈ segments, ¬ placeholder.toList <:+: s.toList) →
      ∃ t u, ofFormat? (joined placeholder segments) operands = .ok t ∧
        ofParts? segments operands = .ok u ∧ t = u ∧
        ∀ same : ω → ω → Bool, (∀ o ∈ operands, same o o) → t.agrees same u) ∧
    ∀ (source : String) (operands : List ω),
      ((∃ t, ofFormat? source operands = .ok t) ↔
        Finds placeholder.toList source.toList operands.length) ∧
      (∀ t, ofFormat? source operands = .ok t →
        joined placeholder t.segments = source ∧ t.operands = operands ∧
          ∀ s ∈ t.segments, ¬ placeholder.toList <:+: s.toList) ∧
      ∀ n, Finds placeholder.toList source.toList n → n ≠ operands.length →
        ofFormat? source operands = .error ⟨operands.length, n + 1⟩ := by
  constructor
  · intro segments operands hlength hsegments
    have hne : segments ≠ [] := List.ne_nil_of_length_eq_add_one hlength
    obtain ⟨t, ht⟩ := ofParts?_of_length hlength
    refine ⟨t, t, ?_, ht, rfl, fun same hsame => agrees_self ?_⟩
    · rw [ofFormat?, splitFormat_joined hne hsegments, ht]
    · rwa [operands_ofParts? ht]
  · intro source operands
    obtain ⟨hjoined, hsegments, n, hlength, hfinds⟩ := splitFormat_spec source
    refine ⟨ofFormat?_isOk_iff, fun t ht => ?_, fun m hm hne => ?_⟩
    · rw [segments_ofParts? ht]
      exact ⟨hjoined, operands_ofParts? ht, hsegments⟩
    · obtain rfl := hm.unique hfinds
      rw [ofFormat?, ofParts?_of_length_ne (by rw [hlength]; exact fun h => hne (Nat.succ.inj h)),
        hlength]

/-- Segments that end and begin in parts of a placeholder. -/
def braced : List String := ["\x7b", "\x7d\x7b", "\x7d"]

theorem format_inverse_braced :
    (braced.length = ([1, 2] : List Nat).length + 1 ∧
      ∀ s ∈ braced, ¬ placeholder.toList <:+: s.toList) ∧
    Finds placeholder.toList "\x7b\x7b\x7d\x7d\x7b\x7b\x7d\x7d".toList 2 ∧
    ∃ t : Template Nat, ofFormat? "\x7b\x7b\x7d\x7d\x7b\x7b\x7d\x7d" [1, 2] = .ok t ∧
      t.segments = braced ∧ t.operands = [1, 2] := by
  have hsegments : ∀ s ∈ braced, ¬ placeholder.toList <:+: s.toList := by decide
  obtain ⟨t, u, ht, hu, rfl, -⟩ := format_inverse.1 braced ([1, 2] : List Nat) rfl hsegments
  have hfinds := (format_inverse.2 _ _).1.1 ⟨t, ht⟩
  exact ⟨⟨rfl, hsegments⟩, hfinds, t, ht, segments_ofParts? hu, operands_ofParts? hu⟩

end Template

end Milp
