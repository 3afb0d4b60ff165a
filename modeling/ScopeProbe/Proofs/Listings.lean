import Mathlib.Data.List.Forall2
import ScopeProbe.Listing
import ScopeProbe.Proofs.Quoting

/-!
# Listings are read back

A listing has one row for each token, and no other place where a line might be
taken to end.  All scopes start in one column, two behind the widest quoted
text.  A row tells its token, so a listing tells its tokens.
-/

namespace ScopeProbe

namespace Text

/-- The characters at which lines may be taken to end: feeds and returns, the separators of files,
groups and records, and the line ends of Unicode. -/
def lineBreaks : Unicode.CodePoints :=
  [(0x0a, 0x0d), (0x1c, 0x1e), (0x85, 0x85), (0x2028, 0x2029)]

theorem not_lineBreak_of_isPrintable {c : Char} (hc : Unicode.isPrintable c = true) :
    lineBreaks.has c = false := by
  have hcovered : lineBreaks.all (fun points => Unicode.unprintable.any fun outer =>
      outer.1 <= points.1 && points.2 <= outer.2) = true := by
    decide +kernel
  rw [Unicode.isPrintable, Bool.not_eq_true'] at hc
  rw [Unicode.CodePoints.has, List.any_eq_false]
  intro points hpoints hhas
  rcases List.any_eq_true.mp (List.all_eq_true.mp hcovered points hpoints) with
    ⟨outer, houter, hinside⟩
  apply List.any_eq_false.mp hc outer houter
  simp only [Bool.and_eq_true, decide_eq_true_eq] at hhas hinside ⊢
  omega

end Text

namespace Listing

/-!
# The widest text
-/

structure IsWidest (tokens : List Token) (widest : Nat) : Prop where
  le : forall token, token ∈ tokens -> token.text.quoted.length <= widest
  attained : tokens ≠ [] -> exists token, token ∈ tokens ∧ token.text.quoted.length = widest

theorem foldl_widest (tokens : List Token) (start : Nat) :
    let widest := tokens.foldl (fun widest token => max widest token.text.quoted.length) start
    start <= widest ∧ (forall token, token ∈ tokens -> token.text.quoted.length <= widest) ∧
      (widest = start ∨ exists token, token ∈ tokens ∧ token.text.quoted.length = widest) := by
  induction tokens generalizing start with
  | nil => exact ⟨Nat.le_refl _, nofun, .inl rfl⟩
  | cons token more ih =>
      rcases ih (max start token.text.quoted.length) with ⟨hstart, hmore, hattained⟩
      have htoken := Nat.le_trans (Nat.le_max_right _ _) hstart
      refine ⟨Nat.le_trans (Nat.le_max_left _ _) hstart, ?_, ?_⟩
      · intro other hother
        rcases List.mem_cons.mp hother with rfl | hlater
        · exact htoken
        · exact hmore other hlater
      · rcases hattained with hsame | ⟨other, hother, hlength⟩
        · rcases Nat.le_total start token.text.quoted.length with hgrows | hstays
          · exact .inr ⟨token, List.mem_cons_self, (Nat.max_eq_right hgrows).symm.trans hsame.symm⟩
          · exact .inl (hsame.trans (Nat.max_eq_left hstays))
        · exact .inr ⟨other, List.mem_cons_of_mem token hother, hlength⟩

theorem isWidest_width (tokens : List Token) : IsWidest tokens (width tokens) := by
  rcases foldl_widest tokens 0 with ⟨_hstart, hle, hattained⟩
  refine ⟨hle, fun hsome => ?_⟩
  rcases hattained with hzero | hfound
  · rcases List.exists_mem_of_ne_nil tokens hsome with ⟨token, htoken⟩
    exact ⟨token, htoken, Nat.le_antisymm (hle token htoken)
      (Nat.le_trans (Nat.le_of_eq hzero) (Nat.zero_le _))⟩
  · exact hfound

/-!
# Rows
-/

def gap (width : Nat) (token : Token) : Text :=
  List.replicate (width - token.text.quoted.length + 2) ' '

def body (width : Nat) (token : Token) : Text :=
  mark token.scope :: ' ' :: (token.text.quoted ++ (gap width token ++ token.scope.raw.toList))

theorem row_eq (width : Nat) (token : Token) : row width token = body width token ++ ['\n'] := by
  have hgap : gap width token =
      List.replicate (width - token.text.quoted.length) ' ' ++ "  ".toList :=
    List.replicate_add _ 2 ' '
  rw [body, hgap]
  unfold row pad
  simp only [List.cons_append, List.append_assoc]

/-- A row shows a token with its scope at a given column: a mark, the quoted text, and nothing but
blanks up to the scope. -/
structure Shows (column : Nat) (row : Text) (token : Token) : Prop where
  marked : row.head? = some '~' <-> token.scope.isCarrier = true
  quoted : exists first quoted blanks, Text.Quotes token.text quoted ∧
    row.take column = first :: ' ' :: (quoted ++ List.replicate blanks ' ')
  scope : row.drop column = token.scope.raw.toList
  unbroken : forall c, c ∈ row -> Text.lineBreaks.has c = false

theorem mark_eq_tilde_iff (scope : Scope) : mark scope = '~' <-> scope.isCarrier = true := by
  unfold mark
  split_ifs with hcarrier
  · exact ⟨fun _ => hcarrier, fun _ => rfl⟩
  · exact ⟨fun h => absurd h (by decide), fun h => absurd h hcarrier⟩

theorem isPrintable_of_mem_body {width : Nat} {token : Token} {c : Char}
    (hc : c ∈ body width token) : Unicode.isPrintable c = true := by
  have hspace : Unicode.isPrintable ' ' = true := Unicode.isPrintable_of_ascii (by decide)
  have hmark : Unicode.isPrintable (mark token.scope) = true := by
    apply Unicode.isPrintable_of_ascii
    unfold mark
    split_ifs <;> decide
  rw [body] at hc
  simp only [List.mem_cons, List.mem_append] at hc
  rcases hc with rfl | rfl | hquoted | hgap | hname
  · exact hmark
  · exact hspace
  · exact Text.isPrintable_of_mem_quoted hquoted
  · rw [List.eq_of_mem_replicate hgap]
    exact hspace
  · exact (Scope.isVisible_of_mem_raw hname).isPrintable

theorem shows_body {width : Nat} {token : Token} (hwidth : token.text.quoted.length <= width) :
    Shows (2 + width + 2) (body width token) token := by
  have hsplit : body width token =
      (mark token.scope :: ' ' :: (token.text.quoted ++ gap width token)) ++
        token.scope.raw.toList := by
    rw [body, List.cons_append, List.cons_append, List.append_assoc]
  have hlength : (mark token.scope :: ' ' :: (token.text.quoted ++ gap width token)).length =
      2 + width + 2 := by
    rw [List.length_cons, List.length_cons, List.length_append, gap, List.length_replicate]
    omega
  constructor
  · show some (mark token.scope) = some '~' <-> _
    rw [Option.some_inj]
    exact mark_eq_tilde_iff token.scope
  · exact ⟨_, _, _, Text.quotes_iff.mpr rfl, by rw [hsplit, List.take_left' hlength]; rfl⟩
  · rw [hsplit, List.drop_left' hlength]
  · exact fun c hc => Text.not_lineBreak_of_isPrintable (isPrintable_of_mem_body hc)

theorem forall₂_shows {tokens : List Token} {width : Nat}
    (hwidth : forall token, token ∈ tokens -> token.text.quoted.length <= width) :
    List.Forall₂ (Shows (2 + width + 2)) (tokens.map (body width)) tokens := by
  rw [List.forall₂_map_left_iff, List.forall₂_same]
  exact fun token htoken => shows_body (hwidth token htoken)

/-!
# Reading
-/

/-- Reads a row: a mark and a space, the quoted text, and the scope behind further spaces. -/
def ofRow? : Text -> Option Token
  | _ :: ' ' :: rest => do
      let (text, behind) ← Text.unquote? rest
      let scope ← Scope.ofRaw? (String.ofList (behind.dropWhile (· == ' ')))
      some { text, scope }
  | _ => none

def ofListing? (listing : Text) : Option (List Token) :=
  (Text.lines listing).dropLast.mapM ofRow?

theorem dropWhile_gap (width : Nat) (token : Token) :
    (gap width token ++ token.scope.raw.toList).dropWhile (· == ' ') =
      token.scope.raw.toList := by
  have hblank : forall c, c ∈ gap width token -> (c == ' ') = true := by
    intro c hc
    rw [List.eq_of_mem_replicate hc]
    rfl
  rw [List.dropWhile_append_of_pos hblank]
  cases hname : token.scope.raw.toList with
  | nil => rfl
  | cons first more =>
      have hvisible : Unicode.IsVisible first :=
        Scope.isVisible_of_mem_raw (hname ▸ List.mem_cons_self)
      apply List.dropWhile_cons_of_neg
      intro hspace
      rw [beq_iff_eq.mp hspace] at hvisible
      exact absurd hvisible (by decide)

theorem ofRow?_body (width : Nat) (token : Token) : ofRow? (body width token) = some token := by
  rw [body, ofRow?, Text.unquote?_quoted, Option.bind_eq_bind, Option.bind_some]
  dsimp only
  rw [dropWhile_gap, String.ofList_toList, Scope.ofRaw?_raw]
  rfl

theorem newline_notMem_body (width : Nat) (token : Token) : '\n' ∉ body width token := by
  intro hnewline
  have hshown := isPrintable_of_mem_body hnewline
  have hbreak : Unicode.isPrintable '\n' = false := by decide
  rw [hbreak] at hshown
  cases hshown

theorem lines_rows (width : Nat) (tokens : List Token) :
    Text.lines (tokens.flatMap (row width)) = tokens.map (body width) ++ [[]] := by
  induction tokens with
  | nil => rfl
  | cons token more ih =>
      rw [List.flatMap_cons, row_eq, List.append_assoc, List.singleton_append,
        Text.lines_append_newline (newline_notMem_body width token), ih]
      rfl

theorem ofListing?_render (tokens : List Token) : ofListing? (render tokens) = some tokens := by
  rw [ofListing?, render, lines_rows, List.dropLast_concat]
  generalize width tokens = widest
  induction tokens with
  | nil => rfl
  | cons token more ih =>
      rw [List.map_cons, List.mapM_cons, ofRow?_body, ih]
      rfl

/-- A listing has one row for each token, in their order, with no line break but at its end.  All
scopes start two columns behind the widest quoted text, and carriers are marked.  The tokens are
read back from the listing, so different tokens have different listings. -/
theorem listing_tells_tokens :
    (forall tokens : List Token, exists rows widest,
      render tokens = rows.flatMap (fun row => row ++ ['\n']) ∧
        List.Forall₂ (Shows (2 + widest + 2)) rows tokens ∧ IsWidest tokens widest) ∧
      (forall tokens : List Token, ofListing? (render tokens) = some tokens) ∧
      forall a b : List Token, render a = render b <-> a = b := by
  have hinjective : Function.Injective render := injective_of_read ofListing?_render
  refine ⟨?_, ofListing?_render, fun _a _b => hinjective.eq_iff⟩
  intro tokens
  have hwidest := isWidest_width tokens
  refine ⟨tokens.map (body (width tokens)), width tokens, ?_, forall₂_shows hwidest.le, hwidest⟩
  rw [render, List.flatMap_map]
  exact List.flatMap_congr fun token _htoken => row_eq (width tokens) token

end Listing
end ScopeProbe
