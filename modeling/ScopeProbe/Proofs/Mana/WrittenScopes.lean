import ScopeProbe.Mana.Lexer
import ScopeProbe.Mana.LineLexer

/-!
# Written scopes are in the vocabulary

Whatever the line lexer writes out is the raw name of a scope: the constants, the
entries of its tables, and the templates with any word that is filled into them.
So each of its tables says of a word what the vocabulary says of it.
-/

namespace ScopeProbe
namespace Mana

/-!
# Templates
-/

theorem Declaration.raw_keywordScope (kind : Declaration) :
    kind.keywordScope.raw = LineLexer.filled "keyword.other." kind.keyword.toList := by
  cases kind <;> rfl

theorem Declaration.raw_nameScope (kind : Declaration) :
    kind.nameScope.raw = LineLexer.filled "entity.name.type." kind.keyword.toList := by
  cases kind <;> rfl

theorem map_raw_directives :
    directives.map (Prod.map id Scope.raw) =
      LineLexer.directives.map fun word =>
        (word, LineLexer.filled "keyword.preprocessor." word) := rfl

/-!
# Tables
-/

theorem map_raw_keywords : keywords.map (Prod.map id Scope.raw) = LineLexer.keywords := rfl

theorem map_raw_operators : operators.map (Prod.map id Scope.raw) = LineLexer.operators := rfl

theorem map_raw_punctuation :
    punctuation.map (Prod.map id Scope.raw) = LineLexer.punctuation := rfl

theorem map_bodies :
    Declaration.all.map (fun kind => (kind.keyword.toList, kind.block.name)) =
      LineLexer.bodies := rfl

/-!
# Looking words up
-/

theorem lookup_map {κ α β : Type} [BEq κ] (f : α -> β) (table : List (κ × α)) (key : κ) :
    (table.map (Prod.map id f)).lookup key = (table.lookup key).map f := by
  induction table with
  | nil => rfl
  | cons entry more ih =>
      rcases entry with ⟨other, value⟩
      rw [List.map_cons, Prod.map_apply, List.lookup_cons, List.lookup_cons, ih, id]
      cases key == other <;> rfl

theorem lookup_words {β : Type} (value : Text -> β) (words : List Text) (word : Text) :
    (words.map fun word => (word, value word)).lookup word =
      if words.contains word then some (value word) else none := by
  induction words with
  | nil => rfl
  | cons other more ih =>
      rw [List.map_cons, List.lookup_cons, ih, List.contains_cons]
      cases hsame : word == other with
      | true => rw [beq_iff_eq.mp hsame, Bool.true_or, if_pos rfl]
      | false => rw [Bool.false_or]

theorem map_raw_lookup_keywords (word : Text) :
    (keywords.lookup word).map Scope.raw = LineLexer.keywords.lookup word := by
  rw [← lookup_map, map_raw_keywords]

theorem map_raw_lookup_punctuation (c : Char) :
    (punctuation.lookup c).map Scope.raw = LineLexer.punctuation.lookup c := by
  rw [← lookup_map, map_raw_punctuation]

theorem map_raw_lookup_directives (word : Text) :
    (directives.lookup word).map Scope.raw =
      if LineLexer.directives.contains word then
        some (LineLexer.filled "keyword.preprocessor." word)
      else none := by
  rw [← lookup_map, map_raw_directives, lookup_words]

theorem map_raw_operator? (text : Text) :
    (operator? text).map (Prod.map id Scope.raw) =
      LineLexer.operators.find? fun (operator, _) => operator.isPrefixOf text := by
  rw [← map_raw_operators, List.find?_map]
  rfl

/-!
# Declarations and other words
-/

def declared? (word : Text) : Option Declaration :=
  (Declaration.all.map fun kind => (kind.keyword.toList, kind)).lookup word

theorem keyword_of_declared? {word : Text} {kind : Declaration} (h : declared? word = some kind) :
    word = kind.keyword.toList := by
  rcases List.lookup_eq_some_iff.mp h with ⟨front, back, hwords, _hfront⟩
  have hmem : (word, kind) ∈ Declaration.all.map fun kind => (kind.keyword.toList, kind) := by
    rw [hwords]
    exact List.mem_append_right front List.mem_cons_self
  rcases List.mem_map.mp hmem with ⟨other, _hother, hentry⟩
  cases hentry
  rfl

theorem lookup_bodies (word : Text) :
    LineLexer.bodies.lookup word = (declared? word).map fun kind => kind.block.name := by
  rw [declared?, ← lookup_map, List.map_map, ← map_bodies]
  rfl

theorem lookup_bodies_keyword (kind : Declaration) :
    LineLexer.bodies.lookup kind.keyword.toList = some kind.block.name := by
  cases kind <;> rfl

theorem reserved?_eq (word : Text) :
    reserved? word =
      if modifiers.contains word then some .modifier
      else
        ((declared? word).map .declaration).or
          (if primitives.contains word then some .primitive
            else if word = "var".toList then some .var
            else (keywords.lookup word).map .keyword) := by
  have hdeclared : (Declaration.all.map fun kind =>
      (kind.keyword.toList, Reserved.declaration kind)).lookup word =
        (declared? word).map .declaration := by
    rw [declared?, ← lookup_map, List.map_map]
    rfl
  have hvar : [("var".toList, Reserved.var)].lookup word =
      if word = "var".toList then some .var else none := by
    by_cases h : word = "var".toList
    · rw [if_pos h, h]
      rfl
    · rw [if_neg h, List.lookup_cons, beq_eq_false_iff_ne.mpr h]
      rfl
  rw [reserved?, reservedWords, List.lookup_append, List.lookup_append, List.lookup_append,
    List.lookup_append, lookup_words, hdeclared, lookup_words, hvar, ← lookup_map]
  split
  · rfl
  · cases declared? word with
    | some kind => rfl
    | none =>
        split
        · rfl
        · split <;> rfl

end Mana
end ScopeProbe
