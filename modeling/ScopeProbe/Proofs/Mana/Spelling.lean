import ScopeProbe.Proofs.Mana.Totality
import ScopeProbe.Taxonomy

/-!
# Tokens that can be written

Whatever the lexer reports, apart from carriers and hash signs, is the token of
some entry of the taxonomy.  Its text comes from a table of the lexer or is a
mark that one of its steps takes, and the taxonomy has a constant for each of
these, or else it has a family for the scope.  A reserved word is told as a name
only in strings and on preprocessor lines.
-/

namespace ScopeProbe

/-!
# What entries stand for
-/

/-- A constant stands for one token and a family for every token of its scope. -/
def Entry.Denotes : Entry -> Token -> Prop
  | constant fixed, token => fixed = token
  | family scope, token => scope = token.scope

theorem Entry.constant_denotes_iff {fixed token : Token} :
    (constant fixed).Denotes token <->
      fixed.scope = token.scope ∧ fixed.text = token.text := by
  cases fixed
  cases token
  simp [Denotes, and_comm]

instance : (entry : Entry) -> (token : Token) -> Decidable (entry.Denotes token)
  | .constant _, _ => decidable_of_iff _ Entry.constant_denotes_iff.symm
  | .family scope, token => inferInstanceAs (Decidable (scope = token.scope))

namespace Taxonomy

def Writes (token : Token) : Prop :=
  exists named, named ∈ entries ∧ named.2.Denotes token

theorem any_denotes_iff {token : Token} :
    (entries.any fun named => named.2.Denotes token) = true <-> Writes token := by
  simp only [List.any_eq_true, decide_eq_true_eq, Writes]

instance (token : Token) : Decidable (Writes token) :=
  decidable_of_iff _ any_denotes_iff

/-- All entries of a scope are constants. -/
def Fixed (scope : Scope) : Prop :=
  forall named, named ∈ entries -> named.2.scope = scope -> named.2.text?.isSome = true

def families : List Scope :=
  (entries.filter fun named => named.2.text?.isNone).map fun named => named.2.scope

theorem not_mem_families_iff {scope : Scope} : scope ∉ families <-> Fixed scope := by
  rw [families, List.mem_map, not_exists, Fixed]
  apply forall_congr'
  intro named
  rw [List.mem_filter, Option.isNone_iff_eq_none, ← Option.not_isSome_iff_eq_none]
  tauto

instance (scope : Scope) : Decidable (Fixed scope) :=
  decidable_of_iff _ not_mem_families_iff

theorem writes_of_family {scope : Scope} (hfamily : scope ∈ families) (text : Text) :
    Writes { text, scope } := by
  rcases List.mem_map.mp hfamily with ⟨⟨name, entry⟩, hentry, hscope⟩
  rcases List.mem_filter.mp hentry with ⟨hmember, hvaries⟩
  cases entry with
  | constant fixed => cases hvaries
  | family scope => exact ⟨_, hmember, hscope⟩

theorem constant_of_fixed {token : Token} (hwrites : Writes token) (hfixed : Fixed token.scope) :
    exists name, (name, Entry.constant token) ∈ entries := by
  rcases hwrites with ⟨⟨name, entry⟩, hentry, hdenotes⟩
  cases entry with
  | constant fixed =>
      cases hdenotes
      exact ⟨name, hentry⟩
  | family scope => cases hfixed _ hentry hdenotes

def identifierScopes : List Scope :=
  (identifiers ++ variableNames).map fun named => named.2.scope

end Taxonomy

open Taxonomy (Writes Fixed families identifierScopes)

namespace Mana

/-!
# Texts and scopes of the lexer

A scope goes with certain texts only, or with any text at all.
-/

def marks : List (Text × Scope) :=
  [(['/', '/'], .punctuationDefinitionComment),
   (['/', '*'], .punctuationDefinitionComment),
   (['*', '/'], .punctuationDefinitionComment),
   (['$', '"'], .punctuationDefinitionStringBegin),
   (['"'], .punctuationDefinitionStringBegin),
   (['"'], .punctuationDefinitionStringEnd),
   (['\x7b'], .punctuationDefinitionInterpolationBegin),
   (['\x7d'], .punctuationDefinitionInterpolationEnd),
   (['_'], .constantNumericOtherSeparatorThousands),
   (['.'], .constantNumericOtherSeparatorDecimals)]

def spellings : List (Text × Scope) :=
  reservedWords.map (fun entry => (entry.1, entry.2.scope)) ++ directives ++ operators ++
    punctuation.map (fun entry => ([entry.1], entry.2)) ++ marks

def literalScopes : List Scope :=
  [.punctuationWhitespaceCommentLeading, .commentLineDoubleSlash, .commentBlock,
   .constantNumericHex, .constantNumericOtherPrefixHex, .constantNumericDecimal,
   .constantNumericOtherSuffix, .stringQuotedDouble, .constantCharacterEscape,
   .stringUnquotedPreprocessorMessage]

def nameScopes : List Scope :=
  [.entityNameTypeClass, .entityNameTypeStruct, .entityNameTypeInterface, .entityNameTypeEnum,
   .entityNameTypeNamespace, .entityNameFunction, .entityNameVariableField,
   .entityNameVariableLocal, .entityNameVariableEnumMember, .variableOtherReadwrite,
   .entityNameVariablePreprocessorSymbol]

theorem writes_spellings :
    forall entry, entry ∈ spellings -> Writes { text := entry.1, scope := entry.2 } := by
  decide +kernel

theorem fixed_spellings : forall entry, entry ∈ spellings -> Fixed entry.2 := by
  decide +kernel

theorem mem_families_of_told :
    forall scope, scope ∈ literalScopes ++ nameScopes -> scope ∈ families := by
  decide +kernel

theorem notMem_identifierScopes_of_spelled :
    forall entry, entry ∈ spellings -> entry.2 ∉ identifierScopes := by
  decide +kernel

theorem notMem_identifierScopes_of_other :
    forall scope, scope ∈ .punctuationSeparatorHash :: Scope.carriers ++ literalScopes ->
      scope ∉ identifierScopes := by
  decide +kernel

/-!
# Lexemes

Each lexeme belongs to a carrier, is a hash sign, is spelled as a table says, or
has a scope in which any text can be written.
-/

inductive Written (lexeme : Lexeme) : Prop where
  | carrier (hcarrier : lexeme.innermost.isCarrier = true) : Written lexeme
  | hash (hhash : lexeme.innermost = .punctuationSeparatorHash) : Written lexeme
  | spelled (hspelling : (lexeme.text, lexeme.innermost) ∈ spellings) : Written lexeme
  | literal (hliteral : literalScopes.contains lexeme.innermost = true) : Written lexeme
  | name (hname : nameScopes.contains lexeme.innermost = true)
      (hfree : reserved? lexeme.text = none ∨
        Scope.stringQuotedDouble ∈ lexeme.inner ∨ Scope.metaPreprocessor ∈ lexeme.inner) :
      Written lexeme

namespace Written

variable {lexeme : Lexeme}

theorem writes (h : Written lexeme) (hvisible : lexeme.innermost.isCarrier = false)
    (hhash : lexeme.innermost ≠ .punctuationSeparatorHash) :
    Writes { text := lexeme.text, scope := lexeme.innermost } := by
  cases h with
  | carrier hcarrier =>
      rw [hcarrier] at hvisible
      cases hvisible
  | hash hsame => exact absurd hsame hhash
  | spelled hspelling => exact writes_spellings _ hspelling
  | literal hliteral =>
      exact Taxonomy.writes_of_family (mem_families_of_told _
        (List.mem_append_left _ (List.contains_iff_mem.mp hliteral))) _
  | name hname _hfree =>
      exact Taxonomy.writes_of_family (mem_families_of_told _
        (List.mem_append_right _ (List.contains_iff_mem.mp hname))) _

theorem reserved_name (h : Written lexeme) (hname : lexeme.innermost ∈ identifierScopes)
    (hreserved : reserved? lexeme.text ≠ none) :
    Scope.stringQuotedDouble ∈ lexeme.inner ∨ Scope.metaPreprocessor ∈ lexeme.inner := by
  cases h with
  | carrier hcarrier =>
      exact absurd hname (notMem_identifierScopes_of_other _
        (List.mem_append_left _ (List.mem_cons_of_mem _ (List.contains_iff_mem.mp hcarrier))))
  | hash hhash =>
      exact absurd hname (notMem_identifierScopes_of_other _ (hhash ▸ List.mem_cons_self))
  | spelled hspelling => exact absurd hname (notMem_identifierScopes_of_spelled _ hspelling)
  | literal hliteral =>
      exact absurd hname (notMem_identifierScopes_of_other _
        (List.mem_append_right _ (List.contains_iff_mem.mp hliteral)))
  | name _hname hfree => exact hfree.resolve_left hreserved

end Written

/-!
# Steps
-/

theorem mem_spellings_of_reserved {word : Text} {reserved : Reserved}
    (h : reserved? word = some reserved) : (word, reserved.scope) ∈ spellings := by
  have hword : (word, reserved) ∈ reservedWords := mem_of_lookup h
  simp only [spellings, List.mem_append, List.mem_map]
  exact Or.inl (Or.inl (Or.inl (Or.inl ⟨_, hword, rfl⟩)))

theorem mem_spellings_of_directive {word : Text} {scope : Scope}
    (h : directives.lookup word = some scope) : (word, scope) ∈ spellings := by
  have hword : (word, scope) ∈ directives := mem_of_lookup h
  simp only [spellings, List.mem_append]
  exact Or.inl (Or.inl (Or.inl (Or.inr hword)))

theorem mem_spellings_of_punctuation {c : Char} {scope : Scope}
    (h : punctuation.lookup c = some scope) : ([c], scope) ∈ spellings := by
  have hmark : (c, scope) ∈ punctuation := mem_of_lookup h
  simp only [spellings, List.mem_append, List.mem_map]
  exact Or.inl (Or.inr ⟨_, hmark, rfl⟩)

theorem Written.of_mark {lexeme : Lexeme}
    (h : marks.contains (lexeme.text, lexeme.innermost) = true) : Written lexeme :=
  Written.spelled (List.mem_append_right _ (List.contains_iff_mem.mp h))

theorem mem_spellings_of_operator {c : Char} {rest operator : Text} {scope : Scope}
    (h : operator? (c :: rest) = some (operator, scope)) :
    (c :: rest.take (operator.length - 1), scope) ∈ spellings := by
  have hmember : (operator, scope) ∈ operators := List.mem_of_find?_eq_some h
  rw [take_operator h]
  simp only [spellings, List.mem_append]
  exact Or.inl (Or.inl (Or.inr hmember))

abbrev Step.lexeme (c : Char) (rest : Text) (next : Step) : Lexeme where
  text := taken c rest next
  inner := next.inner

section Steps

variable (state : State) (c : Char) (rest : Text)

theorem commentStep_written : Written ((commentStep state c rest).lexeme c rest) := by
  unfold commentStep
  split
  · exact Written.literal rfl
  · rename_i hend
    rcases commentEnd?_eq_zero hend with ⟨more, hmark⟩
    cases hmark
    exact Written.of_mark rfl
  · exact Written.literal rfl

theorem wordStep_written (afterType : Bool) :
    Written ((wordStep state afterType c rest).lexeme c rest) := by
  have hextra := wordStep_extra state c rest afterType
  have htext : ((wordStep state afterType c rest).lexeme c rest).text =
      c :: rest.take (runLength isWordChar rest) := by
    rw [Step.lexeme, taken, hextra]
  cases hword : reserved? (c :: rest.take (runLength isWordChar rest)) with
  | some word =>
      apply Written.spelled
      rw [htext]
      simp only [wordStep, hword]
      exact mem_spellings_of_reserved hword
  | none =>
      apply Written.name
      · simp only [wordStep, hword]
        split
        · rename_i kind _hkind
          cases kind <;> rfl
        · simp only [identifierScope]
          split_ifs <;> rfl
      · rw [htext]
        exact Or.inl hword

theorem numberStart_written : Written ((numberStart state c rest).lexeme c rest) := by
  unfold numberStart
  split <;> exact Written.literal rfl

theorem symbolStep_written : Written ((symbolStep state c rest).lexeme c rest) := by
  unfold symbolStep
  split
  · rename_i operator scope hfound
    exact Written.spelled (mem_spellings_of_operator hfound)
  · split
    · rename_i scope hscope
      exact Written.spelled (mem_spellings_of_punctuation hscope)
    · exact Written.carrier rfl

theorem codeStep_written (afterType : Bool) :
    Written ((codeStep state afterType c rest).lexeme c rest) := by
  unfold codeStep
  split_ifs with _hcomment hline hblock hstring hquote
  · exact commentStep_written state c rest
  · rcases hline with ⟨rfl, hslash⟩
    apply Written.of_mark
    rw [Step.lexeme, taken, List.take_one, hslash]
    rfl
  · rcases hblock with ⟨rfl, hstar⟩
    apply Written.of_mark
    rw [Step.lexeme, taken, List.take_one, hstar]
    rfl
  · rcases hstring with ⟨rfl, hquote⟩
    apply Written.of_mark
    rw [Step.lexeme, taken, List.take_one, hquote]
    rfl
  · rw [hquote]
    exact Written.of_mark rfl
  · exact numberStart_written state c rest
  · exact wordStep_written state c rest afterType
  · exact symbolStep_written state c rest

theorem blankOrCodeStep_written (atStart afterType : Bool) :
    Written ((blankOrCodeStep state atStart afterType c rest).lexeme c rest) := by
  simp only [blankOrCodeStep]
  split
  · simp only [leadingBlanks]
    split_ifs
    · exact Written.literal rfl
    · exact Written.carrier rfl
    · exact Written.carrier rfl
  · exact codeStep_written state c rest afterType

theorem hexStep_written : Written ((hexStep state c rest).lexeme c rest) := by
  unfold hexStep
  split
  · exact Written.literal rfl
  · exact blankOrCodeStep_written state c rest false false

theorem numberStep_written : Written ((numberStep state c rest).lexeme c rest) := by
  unfold numberStep
  split_ifs with _hdigit hthousands hpoint
  · exact Written.literal rfl
  · rw [hthousands]
    exact Written.of_mark rfl
  · rw [hpoint.left]
    exact Written.of_mark rfl
  · exact Written.literal rfl
  · exact blankOrCodeStep_written state c rest false false

theorem stringStep_written (interpolated : Bool) :
    Written ((stringStep state interpolated c rest).lexeme c rest) := by
  unfold stringStep
  split_ifs with hquote _hescape hbrace
  · rw [hquote]
    exact Written.of_mark rfl
  · exact Written.literal rfl
  · rw [hbrace.right]
    exact Written.of_mark rfl
  · exact Written.literal rfl

theorem interpolationStep_written : Written ((interpolationStep state c rest).lexeme c rest) := by
  unfold interpolationStep
  split_ifs with hbrace
  · rw [hbrace]
    exact Written.of_mark rfl
  · exact Written.carrier rfl
  · exact Written.name rfl (Or.inr (Or.inl List.mem_cons_self))
  · exact Written.carrier rfl

theorem hashStep_written : Written ((hashStep state c rest).lexeme c rest) := by
  unfold hashStep
  split
  · exact Written.carrier rfl
  · exact Written.hash rfl

theorem preprocessorStep_written (message : Bool) :
    Written ((preprocessorStep state message c rest).lexeme c rest) := by
  unfold preprocessorStep
  split_ifs
  · exact Written.carrier rfl
  · exact Written.literal rfl
  · exact Written.name rfl (Or.inr (Or.inr List.mem_cons_self))
  · exact Written.carrier rfl

theorem directiveStep_written : Written ((directiveStep state c rest).lexeme c rest) := by
  simp only [directiveStep]
  split
  · cases hword : directives.lookup (c :: rest.take (runLength isWordChar rest)) with
    | none => exact Written.carrier rfl
    | some scope => exact Written.spelled (mem_spellings_of_directive hword)
  · exact preprocessorStep_written state c rest false

theorem step_written (mode : Mode) : Written ((step state mode c rest).lexeme c rest) := by
  cases mode with
  | lineStart => exact blankOrCodeStep_written state c rest true false
  | code afterType => exact blankOrCodeStep_written state c rest false afterType
  | lineComment => exact Written.literal rfl
  | hexDigits => exact hexStep_written state c rest
  | number => exact numberStep_written state c rest
  | string interpolated => exact stringStep_written state c rest interpolated
  | interpolation => exact interpolationStep_written state c rest
  | hash => exact hashStep_written state c rest
  | directive => exact directiveStep_written state c rest
  | preprocessor message => exact preprocessorStep_written state c rest message

end Steps

/-!
# Readings
-/

theorem Moment.written (moment : Moment) : Written moment.lexeme :=
  step_written moment.state moment.head moment.rest moment.mode

theorem moment_of_mem_tokens {span : Span} {lines : List Text} {tokens : List Token}
    (hspelled : tokens.map Token.spelled =
      (Excerpt.keptLexemes span (grammar.visits 0 none lines)).filter
        fun lexeme => !(true && carrierNames.contains lexeme.2))
    {token : Token} (htoken : token ∈ tokens) :
    exists moment : Moment, moment.lexeme.text = token.text ∧
      moment.lexeme.innermost = token.scope ∧ token.scope.isCarrier = false := by
  have hmember : token.spelled ∈ tokens.map Token.spelled := List.mem_map_of_mem htoken
  rw [hspelled] at hmember
  rcases List.mem_filter.mp hmember with ⟨hkept, hvisible⟩
  rcases moment_of_mem_keptLexemes hkept with ⟨moment, hmoment⟩
  rw [moment.lexeme.heard_eq] at hmoment
  have hcarrier : carrierNames.contains token.spelled.2 = token.scope.isCarrier :=
    contains_carrierNames token.scope
  rw [hcarrier, Bool.true_and, Bool.not_eq_true'] at hvisible
  exact ⟨moment, congrArg Prod.fst hmoment,
    Scope.raw_injective (congrArg Prod.snd hmoment), hvisible⟩

/-- Tokens read without carriers can all be written with the taxonomy, hash signs apart, and a
token whose scope has only constants is one of them.  These are the scopes of all tables.  A
reserved word is told as a name only in strings and on preprocessor lines. -/
theorem tokens_can_be_written (excerpt : Excerpt) :
    (exists tokens, excerpt.classify grammar true = .ok tokens ∧
      forall token, token ∈ tokens -> token.scope ≠ .punctuationSeparatorHash ->
        Writes token ∧
          (Fixed token.scope ->
            exists name, (name, Entry.constant token) ∈ Taxonomy.entries)) ∧
      (forall entry, entry ∈ spellings -> Fixed entry.2) ∧
      (forall entry, entry ∈ grammar.emitted none excerpt.lines ->
        forall scope, scope ∈ identifierScopes -> entry.2.getLast? = some scope.raw ->
          reserved? entry.1 ≠ none ->
            Scope.stringQuotedDouble.raw ∈ entry.2 ∨ Scope.metaPreprocessor.raw ∈ entry.2) := by
  refine ⟨?_, fixed_spellings, ?_⟩
  · rcases classify_grammar excerpt true with ⟨tokens, hread, hspelled⟩
    refine ⟨tokens, hread, ?_⟩
    intro token htoken hhash
    rcases moment_of_mem_tokens hspelled htoken with ⟨moment, htext, hscope, hvisible⟩
    have hwrites := moment.written.writes
    rw [htext, hscope] at hwrites
    exact ⟨hwrites hvisible hhash, Taxonomy.constant_of_fixed (hwrites hvisible hhash)⟩
  · intro entry hentry scope hname hlast hreserved
    rcases moment_of_mem_emitted hentry with ⟨moment, rfl⟩
    have hinnermost : moment.lexeme.innermost = scope := by
      have hheard := moment.lexeme.heard_eq
      rw [heard, hlast] at hheard
      exact (Scope.raw_injective (congrArg Prod.snd hheard)).symm
    have hname : moment.lexeme.innermost ∈ identifierScopes := hinnermost ▸ hname
    rcases moment.written.reserved_name hname hreserved with hstring | hline
    · exact Or.inl (List.mem_map_of_mem (List.mem_cons_of_mem _ hstring))
    · exact Or.inr (List.mem_map_of_mem (List.mem_cons_of_mem _ hline))

end Mana
end ScopeProbe
