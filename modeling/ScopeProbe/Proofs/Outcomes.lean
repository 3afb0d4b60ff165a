/-!
# Outcomes of steps

Two steps come to something if both of them do, and fail if the first one does or
the second one behind it.  A fold fails with the first entry that is refused,
behind entries that are taken.  A failure that is put in other words comes from
one that is not.
-/

namespace ScopeProbe

theorem bind_eq_ok {ε α β : Type} {outcome : Except ε α} {next : α -> Except ε β} {result : β} :
    outcome >>= next = .ok result <->
      exists value, outcome = .ok value ∧ next value = .ok result := by
  cases outcome with
  | error failure =>
      constructor
      · intro h
        cases h
      · rintro ⟨value, h, _hnext⟩
        cases h
  | ok value =>
      constructor
      · intro h
        exact ⟨value, rfl, h⟩
      · rintro ⟨other, h, hnext⟩
        cases h
        exact hnext

theorem bind_eq_error {ε α β : Type} {outcome : Except ε α} {next : α -> Except ε β}
    {failure : ε} :
    (outcome >>= next) = .error failure <->
      outcome = .error failure ∨
        exists found, outcome = .ok found ∧ next found = .error failure := by
  cases outcome with
  | error other =>
      constructor
      · intro h
        cases h
        exact .inl rfl
      · rintro (h | ⟨_found, h, _hnext⟩)
        · cases h
          rfl
        · cases h
  | ok found =>
      constructor
      · intro h
        exact .inr ⟨found, rfl, h⟩
      · rintro (h | ⟨_found, h, hnext⟩)
        · cases h
        · cases h
          exact hnext

theorem foldlM_eq_error {ε α σ : Type} {take : σ -> α -> Except ε σ} {entries : List α}
    {start : σ} {failure : ε} :
    entries.foldlM take start = .error failure <->
      exists front entry back between, entries = front ++ entry :: back ∧
        front.foldlM take start = .ok between ∧ take between entry = .error failure := by
  induction entries generalizing start with
  | nil =>
      constructor
      · intro h
        cases h
      · rintro ⟨front, entry, back, _between, hentries, _hfront, _hentry⟩
        exact absurd hentries.symm (by simp)
  | cons first more ih =>
      rw [List.foldlM_cons]
      cases hfirst : take start first with
      | error other =>
          constructor
          · intro h
            cases h
            exact ⟨[], first, more, start, rfl, rfl, hfirst⟩
          · rintro ⟨_ | ⟨head, front⟩, entry, back, between, hentries, hfront, hentry⟩
            · cases hentries
              cases hfront
              rw [hfirst] at hentry
              cases hentry
              rfl
            · cases hentries
              rw [List.foldlM_cons, hfirst] at hfront
              cases hfront
      | ok next =>
          show more.foldlM take next = .error failure <-> _
          rw [ih]
          constructor
          · rintro ⟨front, entry, back, between, rfl, hfront, hentry⟩
            refine ⟨first :: front, entry, back, between, rfl, ?_, hentry⟩
            rw [List.foldlM_cons, hfirst]
            exact hfront
          · rintro ⟨_ | ⟨head, front⟩, entry, back, between, hentries, hfront, hentry⟩
            · cases hentries
              cases hfront
              rw [hfirst] at hentry
              cases hentry
            · cases hentries
              rw [List.foldlM_cons, hfirst] at hfront
              exact ⟨front, entry, back, between, rfl, hfront, hentry⟩

theorem mapError_eq_error {ε ε' α : Type} {outcome : Except ε α} {change : ε -> ε'}
    {failure : ε'} :
    outcome.mapError change = .error failure <->
      exists fault, outcome = .error fault ∧ change fault = failure := by
  cases outcome with
  | error fault =>
      constructor
      · intro h
        cases h
        exact ⟨fault, rfl, rfl⟩
      · rintro ⟨_fault, h, rfl⟩
        cases h
        rfl
  | ok found =>
      constructor
      · intro h
        cases h
      · rintro ⟨_fault, h, _hchange⟩
        cases h

end ScopeProbe
