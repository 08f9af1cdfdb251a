/-
What is hidden in a page, and what is not.
-/
import Paperwork.Proofs.Html.Content

namespace Paperwork.Html

open Paperwork.Text

theorem onlyAtTags_hidden : OnlyAtTags hidden := by
  intro cs hcs
  have hcomment : commentLength? cs = none := by
    cases cs with
    | nil => rfl
    | cons c cs =>
        have hc : ¬ '<' = c := fun h => hcs (by rw [h]; rfl)
        simp [commentLength?, behind?, hc]
  have hopening : opening? hiddenNames cs = none :=
    (readsTags_opening (by decide)).onlyAtTags cs hcs
  simp [hidden, hcomment, elementAmong, element?, hopening]

theorem visible_plain {page : List Char} (h : '<' ∉ page) : visible page = page :=
  onlyAtTags_hidden.replaced_plain _ h

/-- Where neither a comment nor an element that is not shown begins, all is visible. -/
theorem visible_eq_self {cs : List Char}
    (hcomment : search (behind? ['<', '!', '-', '-']) cs = none)
    (hopening : search (opening? hiddenNames) cs = none) : visible cs = cs := by
  refine replaced_eq_self _ (search_eq_none.mpr fun tail htail => ?_)
  have hbehind := search_eq_none.mp hcomment tail htail
  have hopens := search_eq_none.mp hopening tail htail
  simp [Html.hidden, commentLength?, hbehind, elementAmong, element?, hopens]

/-! ### Written pages -/

/-- No part of a row begins a comment or an element that is hidden. -/
structure Shown (ts : List Token) : Prop where
  noComment : NoTag (behind? ['!', '-', '-']) ts
  noHidden : NoTag (opens hiddenNames) ts

theorem shown_chars (cs : List Char) : Shown (cs.map .char) := ⟨noTag_chars cs, noTag_chars cs⟩

theorem Shown.append {a b : List Token} (ha : Shown a) (hb : Shown b) : Shown (a ++ b) :=
  ⟨noTag_append.mpr ⟨ha.noComment, hb.noComment⟩, noTag_append.mpr ⟨ha.noHidden, hb.noHidden⟩⟩

/-- A beginning is not completed by what cannot stand in it. -/
theorem behind?_stop {stop : Char} {front cs : List Char} (hstop : stop ∉ front)
    (h : behind? front cs = none) (rest : List Char) :
    behind? front (cs ++ stop :: rest) = none := by
  induction front generalizing cs with
  | nil => simp [behind?] at h
  | cons f front ih =>
      simp only [List.mem_cons, not_or] at hstop
      cases cs with
      | nil => simp [behind?, Ne.symm hstop.1]
      | cons c cs =>
          rw [List.cons_append, behind?]
          split
          · rename_i hc
            rw [behind?, if_pos hc] at h
            exact ih hstop.2 h
          · rfl

theorem hidden_tag {inner : List Char} (hinner : '>' ∉ inner)
    (hcomment : behind? ['!', '-', '-'] inner = none) (hopens : opens hiddenNames inner = none)
    (rest : List Char) : Html.hidden ('<' :: (inner ++ '>' :: rest)) = none := by
  have hbehind : behind? ['!', '-', '-'] (inner ++ '>' :: rest) = none :=
    behind?_stop (by decide) hcomment rest
  have hopening : opening? hiddenNames ('<' :: (inner ++ '>' :: rest)) = none := by
    rw [(readsTags_opening (by decide)).atTag inner rest hinner, hopens]
    rfl
  simp [Html.hidden, commentLength?, behind?, hbehind, elementAmong, element?, hopening]

/-- **What is shown stays where it is**, whatever stands behind it. -/
theorem visible_append {ts : List Token} (hts : Sound ts) (h : Shown ts) (cs : List Char) :
    visible (writeTokens ts ++ cs) = writeTokens ts ++ visible cs := by
  refine replaced_append _ ?_
  induction ts with
  | nil => rfl
  | cons t ts ih =>
      obtain ⟨ht, hrest⟩ := sound_cons.mp hts
      have hmore : pieces Html.hidden (t.write ++ (writeTokens ts ++ cs))
          = t.write.map .plain ++ pieces Html.hidden (writeTokens ts ++ cs) := by
        refine onlyAtTags_hidden.pieces_tag ht ?_
        cases t with
        | char c => exact onlyAtTags_hidden.char_none c _
        | tag inner =>
            have hnone := hidden_tag ht.2.2 (noTag_tag.mp h.noComment).1
              (noTag_tag.mp h.noHidden).1 (writeTokens ts ++ cs)
            simpa [Token.write] using hnone
      have hshown : Shown ts :=
        ⟨h.noComment.sublist (List.sublist_cons_self t ts),
          h.noHidden.sublist (List.sublist_cons_self t ts)⟩
      rw [writeTokens_cons, List.append_assoc, hmore, ih hrest hshown]
      simp

/-- Nothing is hidden in text that is written for HTML. -/
theorem visible_escapeChars (cs : List Char) : visible (escapeChars cs) = escapeChars cs := by
  have hvisible := visible_append (sound_chars cs) (shown_chars cs) []
  rwa [writeTokens_chars, List.append_nil, show visible [] = [] from rfl, List.append_nil]
    at hvisible

/-- A hidden element is left out. -/
theorem visible_of_hidden {cs : List Char} {length : Nat} (h : Html.hidden cs = some ((), length))
    (hpos : 0 < length) (hcs : cs ≠ []) : visible cs = visible (cs.drop length) := by
  rw [visible, replaced_of_some _ h hpos hcs]
  rfl

end Paperwork.Html
