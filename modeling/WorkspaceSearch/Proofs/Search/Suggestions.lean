import WorkspaceSearch.Proofs.Database.Recent
import WorkspaceSearch.Suggestion

/-!
# What is suggested

Suggestions are what three sources have, one behind the other and each text only where it occurs first
(`FirstOccurrences`).  A source that fails counts for one that has nothing (`Suggestion.forgiving`).  From a database
come no more suggestions than are asked for, and the history of others has no part in them.
-/

namespace WorkspaceSearch

namespace Suggestion

open Database (answer)

variable {settings : SuggestionSettings} {userId start : String}

/-! ### Any sources -/

section

variable {σ : Type}

/-- An answer, with the empty list in the place of a failure. -/
def emptied : Except Error (List String) → Except Error (List String)
  | .ok names => .ok names
  | .error _ => .ok []

/-- The store that has nothing to suggest where another one fails. -/
def forgiving (store : Store σ) : Store σ
  | .recentQueriesWithPrefix userId start limit, s =>
    (emptied (store (.recentQueriesWithPrefix userId start limit) s).1,
      (store (.recentQueriesWithPrefix userId start limit) s).2)
  | .channelNamesWithPrefix start limit, s =>
    (emptied (store (.channelNamesWithPrefix start limit) s).1, (store (.channelNamesWithPrefix start limit) s).2)
  | .fullNamesContaining fragment limit, s =>
    (emptied (store (.fullNamesContaining fragment limit) s).1, (store (.fullNamesContaining fragment limit) s).2)
  | c, s => store c s

private theorem orNothing_eq (answer : Except Error (List String)) : orNothing answer = answer.toOption.getD [] := by
  cases answer <;> rfl

private theorem orNothing_emptied (answer : Except Error (List String)) :
    orNothing (emptied answer) = orNothing answer := by
  cases answer <;> rfl

variable (store : Store σ) (s : σ)

private theorem suggest_of_short (h : start.length < settings.minPrefixLength.toNat) :
    suggest settings userId start = .done [] :=
  if_pos h

private theorem run_suggest (h : settings.minPrefixLength.toNat ≤ start.length) {s₁ s₂ s₃ : σ}
    {queries channels users : Except Error (List String)}
    (hqueries : store (.recentQueriesWithPrefix userId start settings.historyLimit.toNat) s = (queries, s₁))
    (hchannels : store (.channelNamesWithPrefix start settings.channelLimit.toNat) s₁ = (channels, s₂))
    (husers : store (.fullNamesContaining start settings.userLimit.toNat) s₂ = (users, s₃)) :
    (suggest settings userId start).run store s =
      (merge (orNothing queries) (orNothing channels) (orNothing users), s₃) := by
  rw [suggest, if_neg (Nat.not_lt.2 h)]
  simp only [Program.ask, Program.andThen, Program.run, hqueries, hchannels, husers]

private theorem run_suggest_forgiving :
    (suggest settings userId start).run (forgiving store) s = (suggest settings userId start).run store s := by
  unfold suggest
  split
  · rfl
  · simp only [Program.ask, Program.andThen, Program.run, forgiving, orNothing_emptied]

end

/-! ### The database -/

section

variable {db : Database}

/-- What the database suggests; looking for it changes nothing. -/
private theorem run_suggest_answer (h : settings.minPrefixLength.toNat ≤ start.length) (db : Database) :
    (suggest settings userId start).run answer db =
      (merge (orNothing (answer (.recentQueriesWithPrefix userId start settings.historyLimit.toNat) db).1)
        (orNothing (answer (.channelNamesWithPrefix start settings.channelLimit.toNat) db).1)
        (orNothing (answer (.fullNamesContaining start settings.userLimit.toNat) db).1), db) :=
  run_suggest answer db h rfl rfl rfl

private theorem length_orNothing_le (db : Database) (isEmpty fits overruns : Bool) (names : List String) (limit : Nat) :
    (orNothing (db.found (Database.guardLookup isEmpty fits overruns (.ok (names.take limit)))).1).length ≤ limit := by
  unfold Database.guardLookup
  split
  · exact Nat.zero_le limit
  · split
    · exact Nat.zero_le limit
    · exact List.length_take_le limit names

private theorem length_suggest_le (db : Database) : ((suggest settings userId start).run answer db).1.length ≤
    settings.historyLimit.toNat + settings.channelLimit.toNat + settings.userLimit.toNat := by
  by_cases hshort : start.length < settings.minPrefixLength.toNat
  · rw [suggest_of_short hshort]
    exact Nat.zero_le _
  · rw [run_suggest_answer (Nat.not_lt.1 hshort)]
    refine (firstOccurrences_eraseDups _).length_le.trans ?_
    rw [List.length_append, List.length_append, List.length_map, List.length_map]
    exact Nat.add_le_add (Nat.add_le_add (length_orNothing_le ..) (length_orNothing_le ..)) (length_orNothing_le ..)

/-- Only the user's own rows of the history have a part in the suggestions. -/
private theorem run_suggest_history (history : Rows Stored.History)
    (h : { db with history }.historyRows userId = db.historyRows userId) :
    ((suggest settings userId start).run answer { db with history }).1 =
      ((suggest settings userId start).run answer db).1 := by
  by_cases hshort : start.length < settings.minPrefixLength.toNat
  · rw [suggest_of_short hshort]
    rfl
  · have hlong := Nat.not_lt.1 hshort
    have hqueries : (answer (.recentQueriesWithPrefix userId start settings.historyLimit.toNat) { db with history }).1 =
        (answer (.recentQueriesWithPrefix userId start settings.historyLimit.toNat) db).1 := by
      have hmatching : { db with history }.rowsBeginning userId start = db.rowsBeginning userId start := by
        rw [Database.rowsBeginning, h, Database.rowsBeginning]
      simp only [answer, Database.found, Database.recentQueriesWithPrefix_eq, h, hmatching]
    rw [run_suggest_answer hlong, run_suggest_answer hlong, hqueries]
    rfl

end

/-- For a beginning that is too short nothing is suggested, and no source is asked.  Otherwise the suggestions are the
recent queries, the channels behind `in:#` and the full names behind `from:@` that the sources have, each text once and
where it occurs first; a source that fails might as well have nothing.  A database has no more suggestions than it is
asked for, and they stay the same whatever is added to the history of others or removed from it. -/
theorem suggested_once (settings : SuggestionSettings) (userId start : String) :
    (start.length < settings.minPrefixLength.toNat → ∀ {σ : Type} (store : Store σ) (s : σ),
      (suggest settings userId start).run store s = ([], s) ∧ (suggest settings userId start).trace store s = []) ∧
    (settings.minPrefixLength.toNat ≤ start.length → ∀ {σ : Type} (store : Store σ) (s s₁ s₂ s₃ : σ)
      (queries channels users : Except Error (List String)),
      store (.recentQueriesWithPrefix userId start settings.historyLimit.toNat) s = (queries, s₁) →
      store (.channelNamesWithPrefix start settings.channelLimit.toNat) s₁ = (channels, s₂) →
      store (.fullNamesContaining start settings.userLimit.toNat) s₂ = (users, s₃) →
      ∃ suggested, (suggest settings userId start).run store s = (suggested, s₃) ∧
        FirstOccurrences (queries.toOption.getD [] ++ (channels.toOption.getD []).map ("in:#" ++ ·) ++
          (users.toOption.getD []).map ("from:@" ++ ·)) suggested) ∧
    (∀ {σ : Type} (store : Store σ) (s : σ),
      (suggest settings userId start).run (forgiving store) s = (suggest settings userId start).run store s) ∧
    (∀ db : Database, ((suggest settings userId start).run answer db).1.length ≤
      settings.historyLimit.toNat + settings.channelLimit.toNat + settings.userLimit.toNat) ∧
    ∀ (db : Database) (history : Rows Stored.History),
      history.toList.filter (·.userId = userId) = db.history.toList.filter (·.userId = userId) →
      ((suggest settings userId start).run answer { db with history }).1 =
        ((suggest settings userId start).run answer db).1 := by
  refine ⟨fun hshort _ store s => ?_, fun hlong _ store s _ _ _ _ _ _ hqueries hchannels husers => ?_,
    fun store s => run_suggest_forgiving store s, length_suggest_le, fun db history => run_suggest_history history⟩
  · rw [suggest_of_short hshort]
    exact ⟨rfl, rfl⟩
  · have hrun := run_suggest store s hlong hqueries hchannels husers
    rw [orNothing_eq, orNothing_eq, orNothing_eq] at hrun
    exact ⟨_, hrun, firstOccurrences_eraseDups _⟩

private def partly : Store Unit
  | .recentQueriesWithPrefix .., s => (.ok ["in:#dev", "dev plan"], s)
  | .channelNamesWithPrefix .., s => (.ok ["dev", "devops"], s)
  | _, s => (.error (.database .tooComplex), s)

private def budgeted : Stored.History :=
  HistoryEntry.toStored ⟨⟨Fin.last 15 :: List.replicate 31 (Fin.last 15), rfl⟩, "bob", "dev budget", {}, .all, .epoch⟩

private def planned : Stored.History := HistoryEntry.toStored ⟨default, "ann", "dev plan", {}, .all, .epoch⟩

/-- A channel that is also a recent query is suggested in the place of the query, and users are left out when they
cannot be found.  Nothing is suggested for a single letter, nor are the queries of Bob to Ann. -/
theorem suggested_once_partly :
    (suggest {} "ann" "d").run partly () = ([], ()) ∧
      (suggest {} "ann" "dev").run partly () = (["in:#dev", "dev plan", "in:#devops"], ()) ∧
      ((suggest {} "ann" "dev").run answer { history := ⟨[⟨1, budgeted⟩, ⟨2, planned⟩]⟩ }).1 =
        ((suggest {} "ann" "dev").run answer { history := ⟨[⟨2, planned⟩]⟩ }).1 := by
  obtain ⟨hnone, -, -, -, -⟩ := suggested_once {} "ann" "d"
  obtain ⟨-, hsome, -, -, hothers⟩ := suggested_once {} "ann" "dev"
  refine ⟨(hnone (by decide) partly ()).1, ?_, ?_⟩
  · obtain ⟨suggested, hrun, hfirst⟩ := hsome (by decide) partly () () () () _ _ _ rfl rfl rfl
    rw [hrun, hfirst.unique (firstOccurrences_eraseDups _)]
    decide +kernel
  · exact hothers { history := ⟨[⟨2, planned⟩]⟩ } _ (by decide +kernel)

end Suggestion

end WorkspaceSearch
