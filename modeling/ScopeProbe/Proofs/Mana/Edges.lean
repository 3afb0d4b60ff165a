import Mathlib.Data.List.Basic
import ScopeProbe.Proofs.LineEnds
import ScopeProbe.Proofs.Mana.Totality

/-!
# Edges of a span

The tokens of a line tile it, so the ends of a span part them at most in two
places.  A token that a span cuts is dropped whole, and the tokens that are kept
of a line are its part between two boundaries of tokens, the first one not in
front of the span and the last one not behind it.
-/

namespace ScopeProbe

/-!
# Parts of a tiling

A tiling can be parted at the positions where one token ends and the next one
starts, and what it has between two of them is a tiling again.
-/

namespace Tiles

/-- A position where a tiling can be parted: its start, or the stop of one of its tokens. -/
def Seam (start : Int) (tokens : List RawToken) (position : Int) : Prop :=
  position = start ∨ exists token, token ∈ tokens ∧ token.stop = position

variable {start stop position : Int} {tokens : List RawToken}

theorem le (h : Tiles start tokens stop) : start <= stop := by
  induction h with
  | nil position => exact le_refl position
  | cons hstart hwidth _hmore ih =>
      rw [← hstart]
      exact hwidth.le.trans ih

theorem inside (h : Tiles start tokens stop) {token : RawToken} (htoken : token ∈ tokens) :
    start <= token.start ∧ token.start < token.stop ∧ token.stop <= stop := by
  induction h with
  | nil position => cases htoken
  | cons hstart hwidth hmore ih =>
      rcases List.mem_cons.mp htoken with rfl | hlater
      · exact ⟨hstart.ge, hwidth, hmore.le⟩
      · rcases ih hlater with ⟨hbehind, hbounds⟩
        exact ⟨by omega, hbounds⟩

theorem seam_stop (h : Tiles start tokens stop) : Seam start tokens stop := by
  induction h with
  | nil position => exact Or.inl rfl
  | cons hstart hwidth _hmore ih =>
      rcases ih with rfl | ⟨token, htoken, hstop⟩
      · exact Or.inr ⟨_, List.mem_cons_self, rfl⟩
      · exact Or.inr ⟨token, List.mem_cons_of_mem _ htoken, hstop⟩

theorem seam_cons {token : RawToken} (hseam : Seam token.stop tokens position) :
    Seam start (token :: tokens) position := by
  rcases hseam with rfl | ⟨other, hother, hstop⟩
  · exact Or.inr ⟨token, List.mem_cons_self, rfl⟩
  · exact Or.inr ⟨other, List.mem_cons_of_mem _ hother, hstop⟩

theorem seam_of_cons {token : RawToken} (hseam : Seam start (token :: tokens) position) :
    position = start ∨ Seam token.stop tokens position := by
  rcases hseam with rfl | ⟨other, hother, hstop⟩
  · exact Or.inl rfl
  · rcases List.mem_cons.mp hother with rfl | hlater
    · exact Or.inr (Or.inl hstop.symm)
    · exact Or.inr (Or.inr ⟨other, hlater, hstop⟩)

theorem seam_start (h : Tiles start tokens stop) {token : RawToken} (htoken : token ∈ tokens) :
    Seam start tokens token.start := by
  induction h with
  | nil position => cases htoken
  | cons hstart _hwidth _hmore ih =>
      rcases List.mem_cons.mp htoken with rfl | hlater
      · exact Or.inl hstart
      · exact seam_cons (ih hlater)

theorem le_of_seam (h : Tiles start tokens stop) (hseam : Seam start tokens position) :
    start <= position ∧ position <= stop := by
  rcases hseam with rfl | ⟨token, htoken, rfl⟩
  · exact ⟨le_refl _, h.le⟩
  · have hbounds := h.inside htoken
    omega

theorem front (h : Tiles start tokens stop) (hseam : Seam start tokens position) :
    Tiles start (tokens.filter fun token => token.stop <= position) position := by
  induction h with
  | nil middle =>
      rcases hseam with rfl | ⟨token, htoken, _hstop⟩
      · exact Tiles.nil _
      · cases htoken
  | @cons start stop token more hstart hwidth hmore ih =>
      rcases seam_of_cons hseam with rfl | hlater
      · rw [List.filter_eq_nil_iff.mpr]
        · exact Tiles.nil _
        · intro other hother hstop
          have hbounds := (Tiles.cons hstart hwidth hmore).inside hother
          have hfront : other.stop <= position := of_decide_eq_true hstop
          omega
      · have hbounds := hmore.le_of_seam hlater
        rw [List.filter_cons_of_pos (by exact decide_eq_true hbounds.left)]
        exact Tiles.cons hstart hwidth (ih hlater)

theorem back (h : Tiles start tokens stop) (hseam : Seam start tokens position) :
    Tiles position (tokens.filter fun token => position <= token.start) stop := by
  induction h with
  | nil middle =>
      rcases hseam with rfl | ⟨token, htoken, _hstop⟩
      · exact Tiles.nil _
      · cases htoken
  | @cons start stop token more hstart hwidth hmore ih =>
      rcases seam_of_cons hseam with rfl | hlater
      · rw [List.filter_eq_self.mpr]
        · exact Tiles.cons hstart hwidth hmore
        · intro other hother
          exact decide_eq_true ((Tiles.cons hstart hwidth hmore).inside hother).left
      · have hbounds := hmore.le_of_seam hlater
        rw [List.filter_cons_of_neg (by simp; omega)]
        exact ih hlater

theorem between (h : Tiles start tokens stop) {first last : Int} (hordered : first <= last)
    (hfirst : Seam start tokens first) (hlast : Seam start tokens last) :
    Tiles first
      (tokens.filter fun token => decide (first <= token.start) && decide (token.stop <= last))
      last := by
  have hseam : Seam start (tokens.filter fun token => token.stop <= last) first := by
    rcases hfirst with rfl | ⟨token, htoken, rfl⟩
    · exact Or.inl rfl
    · exact Or.inr ⟨token, List.mem_filter.mpr ⟨htoken, decide_eq_true hordered⟩, rfl⟩
  rw [← List.filter_filter]
  exact (h.front hlast).back hseam

end Tiles

theorem Text.cut_append (text : Text) {start middle stop : Int} (hstart : 0 <= start)
    (hmiddle : start <= middle) (hstop : middle <= stop) (hlength : stop <= text.length) :
    text.cut start middle ++ text.cut middle stop = text.cut start stop := by
  rcases Int.eq_ofNat_of_zero_le hstart with ⟨a, rfl⟩
  rcases Int.eq_ofNat_of_zero_le (hstart.trans hmiddle) with ⟨b, rfl⟩
  rcases Int.eq_ofNat_of_zero_le ((hstart.trans hmiddle).trans hstop) with ⟨c, rfl⟩
  rw [cut_natCast _ (by omega) (by omega), cut_natCast _ (by omega) (by omega),
    cut_natCast _ (by omega) (by omega)]
  have hfront : text.take b = (text.take c).take b := by
    rw [List.take_take, Nat.min_eq_left (by omega)]
  have hwidth : a <= ((text.take c).take b).length := by
    rw [← hfront, List.length_take]
    omega
  rw [hfront, ← List.drop_append_of_le_length hwidth, List.take_append_drop]

theorem Tiles.flatten_texts {start stop : Int} {tokens : List RawToken}
    (h : Tiles start tokens stop) {line : Text} (hstart : 0 <= start)
    (hstop : stop <= line.length) :
    (tokens.map fun token => token.textIn line).flatten = line.cut start stop := by
  induction h with
  | nil position => exact (line.cut_self position).symm
  | @cons start stop token more hfirst hwidth hmore ih =>
      have hle := hmore.le
      rw [List.map_cons, List.flatten_cons, ih (by omega) hstop, RawToken.textIn, ← hfirst]
      exact line.cut_append (by omega) hwidth.le hle hstop

/-!
# What a span keeps of a tiled line
-/

def boundaries (tokens : List RawToken) : List Int :=
  tokens.flatMap fun token => [token.start, token.stop]

namespace Span

/-- Where the part of a line in a span begins: on the first line of the span with the smallest
boundary that is not in front of it, and on any other line with the line. -/
def firstEdge? (span : Span) (index : Nat) (tokens : List RawToken) : Option Int :=
  if (index : Int) = span.startLine then
    ((boundaries tokens).filter fun boundary => span.startIndex <= boundary).min?
  else some 0

def lastEdge? (span : Span) (index : Nat) (line : Text) (tokens : List RawToken) : Option Int :=
  if (index : Int) = span.endLine then
    ((boundaries tokens).filter fun boundary => boundary <= span.endIndex).max?
  else some line.length

/-- The part of a line between the edges of a span, nothing if there is no such edge or if they are
out of order. -/
def piece (span : Span) (index : Nat) (line : Text) (tokens : List RawToken) : Text :=
  match span.firstEdge? index tokens, span.lastEdge? index line tokens with
  | some first, some last => if first < last then line.cut first last else []
  | _, _ => []

variable {span : Span} {index : Nat} {line : Text} {tokens : List RawToken} {token : RawToken}

theorem mem_boundaries (htoken : token ∈ tokens) :
    token.start ∈ boundaries tokens ∧ token.stop ∈ boundaries tokens := by
  constructor <;> refine List.mem_flatMap.mpr ⟨token, htoken, ?_⟩ <;> simp

theorem seam_boundary (htiles : Tiles 0 tokens line.length) {boundary : Int}
    (hboundary : boundary ∈ boundaries tokens) : Tiles.Seam 0 tokens boundary := by
  rcases List.mem_flatMap.mp hboundary with ⟨token, htoken, hplace⟩
  rcases List.mem_cons.mp hplace with rfl | hstop
  · exact htiles.seam_start htoken
  · exact Or.inr ⟨token, htoken, (List.mem_singleton.mp hstop).symm⟩

theorem firstEdge?_eq_none (hnone : span.firstEdge? index tokens = none)
    (htoken : token ∈ tokens) :
    ¬ ((index : Int) = span.startLine -> span.startIndex <= token.start) := by
  rw [firstEdge?] at hnone
  split at hnone
  · rename_i hfirst
    rw [List.min?_eq_none_iff, List.filter_eq_nil_iff] at hnone
    intro hstart
    exact hnone _ (mem_boundaries htoken).left (decide_eq_true (hstart hfirst))
  · cases hnone

theorem firstEdge?_eq_some (htiles : Tiles 0 tokens line.length) {first : Int}
    (hsome : span.firstEdge? index tokens = some first) :
    Tiles.Seam 0 tokens first ∧ forall token, token ∈ tokens ->
      (((index : Int) = span.startLine -> span.startIndex <= token.start) <->
        first <= token.start) := by
  rw [firstEdge?] at hsome
  split at hsome
  · rename_i hfirst
    rcases List.min?_eq_some_iff.mp hsome with ⟨hmember, hleast⟩
    rcases List.mem_filter.mp hmember with ⟨hboundary, hinside⟩
    have hinside : span.startIndex <= first := of_decide_eq_true hinside
    refine ⟨seam_boundary htiles hboundary, ?_⟩
    intro token htoken
    constructor
    · intro hstart
      exact hleast _ (List.mem_filter.mpr
        ⟨(mem_boundaries htoken).left, decide_eq_true (hstart hfirst)⟩)
    · intro hbehind _hfirst
      exact hinside.trans hbehind
  · rename_i hother
    cases hsome
    refine ⟨Or.inl rfl, ?_⟩
    intro token htoken
    exact iff_of_true (fun hfirst => absurd hfirst hother) (htiles.inside htoken).left

theorem lastEdge?_eq_none (hnone : span.lastEdge? index line tokens = none)
    (htoken : token ∈ tokens) :
    ¬ ((index : Int) = span.endLine -> token.stop <= span.endIndex) := by
  rw [lastEdge?] at hnone
  split at hnone
  · rename_i hlast
    rw [List.max?_eq_none_iff, List.filter_eq_nil_iff] at hnone
    intro hstop
    exact hnone _ (mem_boundaries htoken).right (decide_eq_true (hstop hlast))
  · cases hnone

theorem lastEdge?_eq_some (htiles : Tiles 0 tokens line.length) {last : Int}
    (hsome : span.lastEdge? index line tokens = some last) :
    Tiles.Seam 0 tokens last ∧ forall token, token ∈ tokens ->
      (((index : Int) = span.endLine -> token.stop <= span.endIndex) <->
        token.stop <= last) := by
  rw [lastEdge?] at hsome
  split at hsome
  · rename_i hlast
    rcases List.max?_eq_some_iff.mp hsome with ⟨hmember, hgreatest⟩
    rcases List.mem_filter.mp hmember with ⟨hboundary, hinside⟩
    have hinside : last <= span.endIndex := of_decide_eq_true hinside
    refine ⟨seam_boundary htiles hboundary, ?_⟩
    intro token htoken
    constructor
    · intro hstop
      exact hgreatest _ (List.mem_filter.mpr
        ⟨(mem_boundaries htoken).right, decide_eq_true (hstop hlast)⟩)
    · intro hfront _hlast
      exact hfront.trans hinside
  · rename_i hother
    cases hsome
    refine ⟨htiles.seam_stop, ?_⟩
    intro token htoken
    exact iff_of_true (fun hlast => absurd hlast hother) (htiles.inside htoken).right.right

theorem keeps_of_tiles (htiles : Tiles 0 tokens line.length) (hcovers : span.Covers index)
    (htoken : token ∈ tokens) (hscopes : token.scopes ≠ []) :
    span.keeps index line token = true <->
      ((index : Int) = span.startLine -> span.startIndex <= token.start) ∧
        ((index : Int) = span.endLine -> token.stop <= span.endIndex) := by
  have hstop : min token.stop line.length = token.stop :=
    min_eq_left (htiles.inside htoken).right.right
  rw [keeps_iff, hstop]
  exact ⟨fun h => ⟨h.right.left, h.right.right.left⟩,
    fun h => ⟨hcovers, h.left, h.right, hscopes⟩⟩

theorem filter_eq_nil (htiles : Tiles 0 tokens line.length) (hcovers : span.Covers index)
    (hcut : forall token, token ∈ tokens ->
      ¬ (((index : Int) = span.startLine -> span.startIndex <= token.start) ∧
        ((index : Int) = span.endLine -> token.stop <= span.endIndex))) :
    span.filter index line tokens = [] := by
  apply List.filter_eq_nil_iff.mpr
  intro token htoken hkeeps
  have hscopes : token.scopes ≠ [] := (keeps_iff.mp hkeeps).right.right.right
  exact hcut token htoken ((keeps_of_tiles htiles hcovers htoken hscopes).mp hkeeps)

theorem filter_between (htiles : Tiles 0 tokens line.length) (hcovers : span.Covers index)
    (hscopes : forall token, token ∈ tokens -> token.scopes ≠ []) {first last : Int}
    (hfirst : forall token, token ∈ tokens ->
      (((index : Int) = span.startLine -> span.startIndex <= token.start) <-> first <= token.start))
    (hlast : forall token, token ∈ tokens ->
      (((index : Int) = span.endLine -> token.stop <= span.endIndex) <-> token.stop <= last)) :
    span.filter index line tokens =
      tokens.filter fun token => decide (first <= token.start) && decide (token.stop <= last) := by
  apply List.filter_congr
  intro token htoken
  rw [Bool.eq_iff_iff, keeps_of_tiles htiles hcovers htoken (hscopes token htoken),
    hfirst token htoken, hlast token htoken, Bool.and_eq_true, decide_eq_true_iff,
    decide_eq_true_iff]

theorem flatten_filter (htiles : Tiles 0 tokens line.length) (hcovers : span.Covers index)
    (hscopes : forall token, token ∈ tokens -> token.scopes ≠ []) :
    ((span.filter index line tokens).map fun token => token.textIn line).flatten =
      span.piece index line tokens := by
  rw [piece]
  cases hfirst : span.firstEdge? index tokens with
  | none =>
      rw [filter_eq_nil htiles hcovers
        (fun token htoken hkept => firstEdge?_eq_none hfirst htoken hkept.left)]
      rfl
  | some first =>
      cases hlast : span.lastEdge? index line tokens with
      | none =>
          rw [filter_eq_nil htiles hcovers
            (fun token htoken hkept => lastEdge?_eq_none hlast htoken hkept.right)]
          rfl
      | some last =>
          rcases firstEdge?_eq_some htiles hfirst with ⟨hbegin, hstart⟩
          rcases lastEdge?_eq_some htiles hlast with ⟨hend, hstop⟩
          rw [filter_between htiles hcovers hscopes hstart hstop]
          dsimp only
          split
          · rename_i hordered
            exact (htiles.between hordered.le hbegin hend).flatten_texts
              (htiles.le_of_seam hbegin).left (htiles.le_of_seam hend).right
          · rename_i hordered
            rw [List.filter_eq_nil_iff.mpr]
            · rfl
            · intro token htoken hbounds
              rw [Bool.and_eq_true, decide_eq_true_iff, decide_eq_true_iff] at hbounds
              have hwidth := (htiles.inside htoken).right.left
              omega

end Span

/-!
# Lines of a run
-/

namespace Grammar

variable {σ : Type} (grammar : Grammar σ)

def tokensOn (lines : List Text) (index : Nat) : List RawToken :=
  ((grammar.stream lines).filter fun entry => entry.1 = index).map Prod.snd

theorem filter_number (index number : Nat) (tokens : List RawToken) :
    ((tokens.map (index, ·)).filter fun entry => entry.1 = number).map Prod.snd =
      if index = number then tokens else [] := by
  rw [List.filter_map, List.map_map]
  show (tokens.filter fun _token => index = number).map id = _
  rw [List.map_id]
  split <;> simp [*]

theorem tokens_of_number (index number : Nat) (before : Option σ) (lines : List Text) :
    (((grammar.visits index before lines).flatMap fun visit =>
        visit.tokens.map (visit.index, ·)).filter fun entry => entry.1 = number).map Prod.snd =
      if index <= number then
        (lines[number - index]?.map fun line =>
          (grammar line (grammar.stateAfter before (lines.take (number - index)))).tokens).getD []
      else [] := by
  induction lines generalizing index before with
  | nil => simp [visits]
  | cons line more ih =>
      rw [visits_cons, List.flatMap_cons]
      dsimp only
      rw [List.filter_append, List.map_append, filter_number, ih]
      rcases Nat.lt_trichotomy index number with hbefore | rfl | hbehind
      · have hplace : number - index = number - (index + 1) + 1 := by omega
        rw [if_neg (by omega), if_pos (by omega), if_pos (by omega), hplace,
          List.getElem?_cons_succ, List.take_succ_cons]
        rfl
      · rw [if_pos rfl, if_neg (by omega), if_pos (le_refl _), Nat.sub_self, List.append_nil]
        rfl
      · rw [if_neg (by omega), if_neg (by omega), if_neg (by omega)]
        rfl

theorem tokensOn_eq (lines : List Text) (index : Nat) :
    grammar.tokensOn lines index =
      (lines[index]?.map fun line =>
        (grammar line (grammar.stateAfter none (lines.take index))).tokens).getD [] :=
  (grammar.tokens_of_number 0 index none lines).trans (if_pos (Nat.zero_le _))

end Grammar

namespace Excerpt

variable {σ : Type} (grammar : Grammar σ) (excerpt : Excerpt)

def textsOn (index : Nat) : List Text :=
  ((excerpt.spanTokens grammar).filter fun entry => entry.1 = index).map fun entry =>
    entry.2.textIn (excerpt.lineAt index)

theorem textsOn_eq (index : Nat) :
    excerpt.textsOn grammar index =
      (excerpt.span.filter index (excerpt.lineAt index)
        (grammar.tokensOn excerpt.lines index)).map fun token =>
          token.textIn (excerpt.lineAt index) := by
  rw [textsOn, spanTokens_eq_filter_stream, List.filter_comm, Grammar.tokensOn, Span.filter,
    List.filter_map, List.map_map]
  congr 1
  apply List.filter_congr
  rintro ⟨number, token⟩ hentry
  rcases List.mem_filter.mp hentry with ⟨hstream, hnumber⟩
  have hnumber : number = index := of_decide_eq_true hnumber
  subst hnumber
  rcases List.mem_flatMap.mp hstream with ⟨visit, hvisit, htoken⟩
  rcases List.mem_map.mp htoken with ⟨same, _hsame, hequal⟩
  cases hequal
  have hline : excerpt.lines[visit.index]? = some visit.call.line := by
    simpa using grammar.getElem?_index hvisit
  rw [Bool.eq_iff_iff, decide_eq_true_iff, ← Span.keeps_iff_holds token hline, lineAt, hline]
  rfl

end Excerpt

namespace Mana

theorem tiles_tokens (line : Text) (before : Option State) :
    Tiles 0 (grammar line before).tokens line.length := by
  have htiles := tiles_scan 0 (before.getD {}) (startMode (before.getD {}) line) line
  rw [Nat.zero_add] at htiles
  exact htiles

theorem tokensOn_line (lines : List Text) (index : Nat) :
    exists before, grammar.tokensOn lines index =
      (grammar (lines[index]?.getD []) before).tokens := by
  rw [Grammar.tokensOn_eq]
  cases lines[index]? with
  | none => exact ⟨none, rfl⟩
  | some line => exact ⟨_, rfl⟩

/-- On each line that a span covers, the texts kept are together the part of the line between two
boundaries of the tokens that the whole line has, the smallest one not in front of the span and the
greatest one not behind it.  On no other line a token is kept, and all that is kept is told. -/
theorem edges_part_no_token (excerpt : Excerpt) :
    (exists tokens, excerpt.classify grammar false = .ok tokens ∧
        tokens.map Token.spelled = excerpt.spanLexemes grammar) ∧
      forall index : Nat,
        if excerpt.span.Covers index then
          (excerpt.textsOn grammar index).flatten =
            excerpt.span.piece index (excerpt.lineAt index)
              (grammar.tokensOn excerpt.lines index)
        else excerpt.textsOn grammar index = [] := by
  constructor
  · rcases classify_grammar excerpt false with ⟨tokens, hread, hspelled⟩
    refine ⟨tokens, hread, ?_⟩
    rw [hspelled, Excerpt.keptLexemes_eq_spanLexemes]
    exact List.filter_true _
  · intro index
    rcases tokensOn_line excerpt.lines index with ⟨before, htokens⟩
    rw [Excerpt.textsOn_eq, htokens]
    split
    · rename_i hcovers
      apply Span.flatten_filter (tiles_tokens _ before) hcovers
      intro token htoken
      exact Lexeme.rawTokens_scopes_ne_nil htoken
    · rename_i houtside
      rw [Span.filter_of_outside, List.map_nil]
      rw [Span.Covers] at houtside
      omega

-- The span ends inside of the operator, which is dropped whole.
example :
    Excerpt.textsOn grammar { lines := ["x >>=".toList], span := ⟨0, 0, 0, 4⟩ } 0 =
      ["x".toList, " ".toList] := by
  decide +kernel

end Mana
end ScopeProbe
