import Mathlib.Data.List.Infix
import ScopeProbe.Classification
import ScopeProbe.Proofs.Fragments

/-!
# Line ends of two characters

Unifying the line ends of a text takes each carriage return that stands directly
in front of a line feed, once.  A carriage return in front of such a pair then
makes a new pair, and that is the only way in which one is left.  A text without
pairs is what every spelling of its line ends is unified to.
-/

namespace ScopeProbe
namespace Text

def HasPair (text : Text) : Prop :=
  ['\r', '\n'] <:+: text

/-- A line end of two characters stands behind another carriage return. -/
def HasDoubledReturn (text : Text) : Prop :=
  ['\r', '\r', '\n'] <:+: text

instance (text : Text) : Decidable text.HasPair :=
  inferInstanceAs (Decidable (_ <:+: _))

instance (text : Text) : Decidable text.HasDoubledReturn :=
  inferInstanceAs (Decidable (_ <:+: _))

/-!
# What unifying leaves
-/

theorem hasPair_cons {c : Char} {rest : Text} :
    HasPair (c :: rest) <-> (c = '\r' ∧ rest.head? = some '\n') ∨ HasPair rest := by
  rw [HasPair, List.infix_cons_iff, List.cons_prefix_cons]
  apply or_congr_left
  rw [eq_comm]
  apply and_congr_right'
  cases rest with
  | nil => simp
  | cons d more => simp [List.cons_prefix_cons, eq_comm]

theorem hasDoubledReturn_cons {c : Char} {rest : Text} :
    HasDoubledReturn (c :: rest) <->
      (c = '\r' ∧ ['\r', '\n'] <+: rest) ∨ HasDoubledReturn rest := by
  rw [HasDoubledReturn, List.infix_cons_iff, List.cons_prefix_cons, eq_comm]
  exact Iff.rfl

theorem unifyNewlines_cons {c : Char} {rest : Text}
    (hsingle : ¬ (c = '\r' ∧ rest.head? = some '\n')) :
    unifyNewlines (c :: rest) = c :: unifyNewlines rest := by
  rw [unifyNewlines]
  rintro more rfl rfl
  exact hsingle ⟨rfl, rfl⟩

theorem head?_unifyNewlines (text : Text) :
    (unifyNewlines text).head? = some '\n' <->
      text.head? = some '\n' ∨ ['\r', '\n'] <+: text := by
  fun_cases unifyNewlines text with
  | case1 => simp
  | case2 rest => simp
  | case3 c rest hsingle =>
      have hpair : ¬ ['\r', '\n'] <+: c :: rest := by
        rintro ⟨more, hmore⟩
        cases hmore
        exact hsingle _ rfl rfl
      simp [hpair]

theorem hasPair_unifyNewlines (text : Text) :
    (unifyNewlines text).HasPair <-> text.HasDoubledReturn := by
  fun_induction unifyNewlines text with
  | case1 => decide
  | case2 rest ih =>
      rw [hasPair_cons, hasDoubledReturn_cons, hasDoubledReturn_cons, ih]
      simp [List.cons_prefix_cons]
  | case3 c rest hsingle ih =>
      rw [hasPair_cons, hasDoubledReturn_cons, ih, head?_unifyNewlines]
      apply or_congr_left
      apply and_congr_right
      rintro rfl
      apply or_iff_right
      intro hfeed
      rcases List.head?_eq_some_iff.mp hfeed with ⟨more, rfl⟩
      exact hsingle more rfl rfl

theorem length_unifyNewlines_le (text : Text) :
    (unifyNewlines text).length <= text.length := by
  fun_induction unifyNewlines text with
  | case1 => exact Nat.le_refl _
  | case2 rest ih =>
      rw [List.length_cons, List.length_cons, List.length_cons]
      omega
  | case3 c rest _hsingle ih =>
      rw [List.length_cons, List.length_cons]
      omega

theorem unifyNewlines_eq_self (text : Text) : unifyNewlines text = text <-> ¬ text.HasPair := by
  fun_induction unifyNewlines text with
  | case1 => decide
  | case2 rest ih =>
      have hshorter := length_unifyNewlines_le rest
      have hpair : HasPair ('\r' :: '\n' :: rest) := hasPair_cons.mpr (.inl ⟨rfl, rfl⟩)
      simp [hpair]
  | case3 c rest hsingle ih =>
      have hstart : ¬ (c = '\r' ∧ rest.head? = some '\n') := by
        rintro ⟨rfl, hfeed⟩
        rcases List.head?_eq_some_iff.mp hfeed with ⟨more, rfl⟩
        exact hsingle more rfl rfl
      rw [hasPair_cons, or_iff_right hstart, ← ih, List.cons.injEq, and_iff_right rfl]

theorem unifyNewlines_unifyNewlines (text : Text) :
    unifyNewlines (unifyNewlines text) = unifyNewlines text <-> ¬ text.HasDoubledReturn := by
  rw [unifyNewlines_eq_self, hasPair_unifyNewlines]

/-!
# Spellings of line ends
-/

/-- Writes the line feeds at the chosen places as pairs.  The first character of the text has the
given place. -/
def withPairs (chosen : Nat -> Bool) (place : Nat) (text : Text) : Text :=
  (text.zipIdx place).flatMap fun entry =>
    if entry.1 = '\n' ∧ chosen entry.2 = true then ['\r', '\n'] else [entry.1]

theorem withPairs_cons (chosen : Nat -> Bool) (place : Nat) (c : Char) (rest : Text) :
    withPairs chosen place (c :: rest) =
      (if c = '\n' ∧ chosen place = true then ['\r', '\n'] else [c]) ++
        withPairs chosen (place + 1) rest := by
  rw [withPairs, List.zipIdx_cons, List.flatMap_cons]
  rfl

theorem head?_of_withPairs {chosen : Nat -> Bool} {place : Nat} {text : Text}
    (h : (withPairs chosen place text).head? = some '\n') : text.head? = some '\n' := by
  cases text with
  | nil => cases h
  | cons c rest =>
      rw [withPairs_cons] at h
      split at h
      · cases h
      · exact h

theorem unifyNewlines_withPairs {text : Text} (hpairs : ¬ text.HasPair)
    (chosen : Nat -> Bool) (place : Nat) :
    unifyNewlines (withPairs chosen place text) = text := by
  induction text generalizing place with
  | nil => rfl
  | cons c rest ih =>
      rw [hasPair_cons, not_or] at hpairs
      have hrest := ih hpairs.right (place + 1)
      rw [withPairs_cons]
      split
      · rename_i hchosen
        rw [hchosen.left]
        show '\n' :: unifyNewlines (withPairs chosen (place + 1) rest) = '\n' :: rest
        rw [hrest]
      · have hsingle :
            ¬ (c = '\r' ∧ (withPairs chosen (place + 1) rest).head? = some '\n') := by
          intro hpair
          exact hpairs.left ⟨hpair.left, head?_of_withPairs hpair.right⟩
        rw [List.singleton_append, unifyNewlines_cons hsingle, hrest]

end Text

namespace Excerpt

/-!
# Excerpts
-/

theorem text_ofText (text : Text) : (ofText text).text = text.unifyNewlines :=
  Text.unlines_lines _

theorem ofText_eq_iff {text other : Text} :
    ofText text = ofText other <-> text.unifyNewlines = other.unifyNewlines := by
  constructor
  · intro hsame
    rw [← text_ofText, ← text_ofText, hsame]
  · intro hsame
    rw [ofText, ofText, hsame]

/-- Unifying leaves a pair just if one has stood behind another carriage return.  Just then unifying
again changes the text, and an excerpt of the text of the excerpt differs from it. -/
theorem unified_for_good_iff (text : Text) :
    (text.unifyNewlines.HasPair <-> text.HasDoubledReturn) ∧
      (text.unifyNewlines.unifyNewlines = text.unifyNewlines <-> ¬ text.HasDoubledReturn) ∧
      (ofText (ofText text).text = ofText text <-> ¬ text.HasDoubledReturn) := by
  have hagain := Text.unifyNewlines_unifyNewlines text
  refine ⟨Text.hasPair_unifyNewlines text, hagain, ?_⟩
  rw [ofText_eq_iff, text_ofText]
  exact hagain

/-- Of two carriage returns in front of a line feed one is left, and it makes a pair. -/
theorem doubled_return_leaves_pair :
    (Text.unifyNewlines "\r\r\n".toList).HasPair ∧
      (Text.unifyNewlines "\r\r\n".toList).unifyNewlines ≠ Text.unifyNewlines "\r\r\n".toList ∧
      ofText (ofText "\r\r\n".toList).text ≠ ofText "\r\r\n".toList := by
  decide

/-- However the line ends of a text without pairs are spelled, each place makes the same excerpt of
it, and every grammar reads the same.  The lines that the span cuts out are those of the text, with
all of its carriage returns. -/
theorem spelling_does_not_matter {text : Text} (hpairs : ¬ text.HasPair)
    (chosen : Nat -> Bool) (place : Option Surroundings) :
    let excerpt := placed place (text.withPairs chosen 0)
    excerpt = placed place text ∧
      (forall (σ : Type) (grammar : Grammar σ) (excludeCarriers : Bool),
        excerpt.read grammar excludeCarriers =
          (placed place text).read grammar excludeCarriers) ∧
      excerpt.span.parts 0 excerpt.lines = text.lines ∧ Text.unlines text.lines = text := by
  intro excerpt
  have hspelled : (text.withPairs chosen 0).unifyNewlines = text :=
    Text.unifyNewlines_withPairs hpairs chosen 0
  have hplain : text.unifyNewlines = text :=
    (Text.unifyNewlines_eq_self text).mpr hpairs
  have hexcerpt : excerpt = placed place text := by
    cases place with
    | none => exact ofText_eq_iff.mpr (hspelled.trans hplain.symm)
    | some place =>
        show fill _ _ = fill _ _
        rw [fill, fill, hspelled, hplain]
  refine ⟨hexcerpt, ?_, ?_, Text.unlines_lines text⟩
  · intro σ grammar excludeCarriers
    rw [hexcerpt]
  · rw [hexcerpt, placed_eq_fill, parts_fill, hplain]

theorem mixed_spelling_does_not_matter :
    ¬ Text.HasPair "a\r;\n\rb\n".toList ∧
      Text.withPairs (· < 4) 0 "a\r;\n\rb\n".toList = "a\r;\r\n\rb\n".toList ∧
      placed (some .classBody) "a\r;\r\n\rb\n".toList =
        placed (some .classBody) "a\r;\n\rb\n".toList := by
  have hpairs : ¬ Text.HasPair "a\r;\n\rb\n".toList := by decide
  have hspelled : Text.withPairs (· < 4) 0 "a\r;\n\rb\n".toList =
      "a\r;\r\n\rb\n".toList := by
    decide
  have hsame := (spelling_does_not_matter hpairs (· < 4) (some .classBody)).left
  rw [hspelled] at hsame
  exact ⟨hpairs, hspelled, hsame⟩

end Excerpt
end ScopeProbe
