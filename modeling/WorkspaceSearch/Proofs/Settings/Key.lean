import WorkspaceSearch.Proofs.Text.Numeral
import WorkspaceSearch.Settings.Key

/-!
# Settings by key

A setting is written exactly when its key is listed, the text is one of its type and the settings it leads to are valid;
then it reads as the decimal text of its number, or as the path, and every other key reads as before
(`Settings.set_get_agree`).  So settings that are written by key from the usual ones on are those of a service that can
run.
-/

namespace WorkspaceSearch

open Numeral (Bounded IsNumeral)

/-! ### Keys -/

namespace SettingKey

private theorem mem_all (k : SettingKey) : k ∈ all := by
  rcases k with ⟨_ | _ | _ | _ | _ | _ | _ | _ | _⟩ | _ <;> decide

/-- No two settings have one key. -/
private theorem ofName?_name (k : SettingKey) : ofName? k.name = some k := by
  rcases k with ⟨_ | _ | _ | _ | _ | _ | _ | _ | _⟩ | _ <;> decide

private theorem name_of_ofName? {text : String} {k : SettingKey} (h : ofName? text = some k) : k.name = text :=
  of_decide_eq_true (List.find?_some (p := fun k : SettingKey => decide (k.name = text)) h)

private theorem ofName?_eq_some_iff {text : String} {k : SettingKey} : ofName? text = some k ↔ text = k.name := by
  constructor
  · exact fun h => (name_of_ofName? h).symm
  · rintro rfl
    exact ofName?_name k

private theorem name_injective {k l : SettingKey} (h : k.name = l.name) : k = l :=
  Option.some.inj ((ofName?_name k).symm.trans (ofName?_eq_some_iff.2 h))

end SettingKey

namespace Settings

variable {s : Settings}

private theorem mem_list_iff (s : Settings) (key : String) :
    key ∈ s.list.map Prod.fst ↔ ∃ k : SettingKey, key = k.name := by
  simp only [list, List.map_map, List.mem_map, Function.comp_apply]
  constructor
  · rintro ⟨k, -, rfl⟩
    exact ⟨k, rfl⟩
  · rintro ⟨k, rfl⟩
    exact ⟨k, k.mem_all, rfl⟩

private theorem get_name (s : Settings) (k : SettingKey) : s.get k.name = .ok (s.textOf k) := by
  rw [get, SettingKey.ofName?_name]

/-! ### Numbers by key -/

private theorem number_withNumber (s : Settings) (k : NumberKey) (n : Bounded k.range) :
    (s.withNumber k n).number k = n := by
  cases k <;> rfl

private theorem number_withNumber_of_ne {k l : NumberKey} (h : l ≠ k) (n : Bounded k.range) :
    (s.withNumber k n).number l = s.number l := by
  cases k <;> cases l <;> first | rfl | exact absurd rfl h

private theorem withNumber_number (s : Settings) (k : NumberKey) : s.withNumber k (s.number k) = s := by
  cases k <;> rfl

private theorem problem?_eq_none_iff :
    s.problem? = none ↔ 0 ≤ s.search.defaultLimit.val ∧ s.search.domainTimeout.val ≠ 0 ∧
      s.suggestions.minPrefixLength.val ≠ 0 ∧ s.storage.maxConnections.val ≠ 0 := by
  unfold problem?
  split
  · next h => simp [Int.not_le.2 h]
  · next hlimit =>
    have hnonneg : 0 ≤ s.search.defaultLimit.val := by omega
    split
    · next h => simp [h]
    · next htimeout =>
      split
      · next h => simp [h]
      · next hprefix => split <;> simp_all

/-- Settings are valid when no number has a problem of its own. -/
private theorem validate_eq_ok_iff : s.validate = .ok () ↔ ∀ k : NumberKey, k.problem? (s.number k).val = none := by
  have hvalid : s.validate = .ok () ↔ s.problem? = none := by
    rw [validate]
    cases s.problem? <;> simp
  rw [hvalid, problem?_eq_none_iff]
  constructor
  · rintro ⟨hlimit, htimeout, hprefix, hconnections⟩ k
    cases k with
    | defaultLimit => exact if_neg (Int.not_lt.2 hlimit)
    | domainTimeout => exact if_neg htimeout
    | minPrefixLength => exact if_neg hprefix
    | maxConnections => exact if_neg hconnections
    | _ => rfl
  · intro h
    have hlimit := h .defaultLimit
    have htimeout := h .domainTimeout
    have hprefix := h .minPrefixLength
    have hconnections := h .maxConnections
    simp only [NumberKey.problem?, ite_eq_right_iff, reduceCtorEq, imp_false, Int.not_lt] at hlimit htimeout
    simp only [NumberKey.problem?, ite_eq_right_iff, reduceCtorEq, imp_false] at hprefix hconnections
    exact ⟨hlimit, htimeout, hprefix, hconnections⟩

/-- In valid settings a number can be put in the place of another when it has no problem. -/
private theorem validate_withNumber (h : s.validate = .ok ()) (k : NumberKey) (n : Bounded k.range) :
    (s.withNumber k n).validate = .ok () ↔ k.problem? n.val = none := by
  rw [validate_eq_ok_iff] at h ⊢
  constructor
  · intro hall
    have hk := hall k
    rwa [number_withNumber] at hk
  · intro hk l
    by_cases hl : l = k
    · subst hl
      rwa [number_withNumber]
    · rw [number_withNumber_of_ne hl]
      exact h l

/-! ### Writing -/

/-- The settings that a text leads to when it is put in the place of a setting. -/
def Replaces (s : Settings) (k : SettingKey) (text : String) (s' : Settings) : Prop :=
  match k with
  | .number k => ∃ n : Bounded k.range, IsNumeral k.range text n.val ∧ s' = s.withNumber k n
  | .databasePath => s' = { s with storage.databasePath := some text }

private theorem setNumber_eq_ok_iff {k : NumberKey} {text : String} {s' : Settings} :
    s.setNumber k text = .ok s' ↔
      ∃ n : Bounded k.range, IsNumeral k.range text n.val ∧ k.problem? n.val = none ∧ s' = s.withNumber k n := by
  simp only [← Numeral.readBounded_eq_ok_iff]
  unfold setNumber
  cases hread : Numeral.readBounded k.range text with
  | error fault => simp
  | ok n =>
    cases hproblem : k.problem? n.val with
    | some problem => simp [hproblem]
    | none => simp [hproblem, eq_comm]

/-- A setting is written when its text is one of its type and the settings it leads to are valid. -/
private theorem set_eq_ok_iff (h : s.validate = .ok ()) {key text : String} {s' : Settings} :
    s.set key text = .ok s' ↔ ∃ k : SettingKey, key = k.name ∧ s.Replaces k text s' ∧ s'.validate = .ok () := by
  have hname : ∀ k : SettingKey, key = k.name →
      (s.set key text = .ok s' ↔ s.Replaces k text s' ∧ s'.validate = .ok ()) := by
    intro k hk
    rw [set, SettingKey.ofName?_eq_some_iff.2 hk]
    cases k with
    | number k =>
      constructor
      · intro hset
        obtain ⟨n, hn, hproblem, rfl⟩ := setNumber_eq_ok_iff.1 hset
        exact ⟨⟨n, hn, rfl⟩, (validate_withNumber h k n).2 hproblem⟩
      · rintro ⟨⟨n, hn, rfl⟩, hvalid⟩
        exact setNumber_eq_ok_iff.2 ⟨n, hn, (validate_withNumber h k n).1 hvalid, rfl⟩
    | databasePath =>
      constructor
      · intro hset
        exact ⟨(Except.ok.inj hset).symm, Except.ok.inj hset ▸ h⟩
      · rintro ⟨rfl, -⟩
        rfl
  constructor
  · intro hset
    cases hk : SettingKey.ofName? key with
    | none =>
      rw [set, hk] at hset
      cases hset
    | some k =>
      have hkey := SettingKey.ofName?_eq_some_iff.1 hk
      exact ⟨k, hkey, (hname k hkey).1 hset⟩
  · rintro ⟨k, hkey, hreplaces⟩
    exact (hname k hkey).2 hreplaces

/-- A number that is written reads as its decimal text. -/
private theorem Replaces.textOf_number {k : NumberKey} {text : String} {s' : Settings}
    (h : s.Replaces (.number k) text s')
    {n : Bounded k.range} (hn : IsNumeral k.range text n.val) : s'.textOf (.number k) = toString n.val := by
  obtain ⟨m, hm, rfl⟩ := h
  -- a text is a numeral of one number only
  have hsame : m = n :=
    Except.ok.inj ((Numeral.readBounded_eq_ok_iff.2 hm).symm.trans (Numeral.readBounded_eq_ok_iff.2 hn))
  rw [textOf, number_withNumber, hsame, Numeral.render_eq_toString]

/-- Only the setting that is replaced has another text. -/
private theorem Replaces.textOf_of_ne {k l : SettingKey} {text : String} {s' : Settings} (h : s.Replaces k text s')
    (hne : l ≠ k) : s'.textOf l = s.textOf l := by
  cases k with
  | number k =>
    obtain ⟨n, -, rfl⟩ := h
    cases l with
    | number l =>
      have hl : l ≠ k := fun hl => hne (congrArg SettingKey.number hl)
      rw [textOf, textOf, number_withNumber_of_ne hl]
    | databasePath => cases k <;> rfl
  | databasePath =>
    obtain rfl := h
    cases l with
    | number l => cases l <;> rfl
    | databasePath => exact absurd rfl hne

private theorem get_of_ne {k : SettingKey} {text other : String} {s' : Settings} (h : s.Replaces k text s')
    (hne : other ≠ k.name) : s'.get other = s.get other := by
  cases hl : SettingKey.ofName? other with
  | none => rw [get, get, hl]
  | some l =>
    obtain rfl := SettingKey.ofName?_eq_some_iff.1 hl
    rw [get_name, get_name, h.textOf_of_ne fun heq => hne (congrArg SettingKey.name heq)]

/-! ### Writing one setting after the other -/

/-- The settings after a text has been written under a key; a refusal leaves them as they are. -/
def afterSet (s : Settings) (call : String × String) : Settings :=
  match s.set call.1 call.2 with
  | .ok s' => s'
  | .error _ => s

private theorem validate_afterSet (h : s.validate = .ok ()) (call : String × String) :
    (s.afterSet call).validate = .ok () := by
  unfold afterSet
  split
  · next s' hset =>
    obtain ⟨-, -, -, hvalid⟩ := (set_eq_ok_iff h).1 hset
    exact hvalid
  · exact h

private theorem validate_foldl_afterSet (h : s.validate = .ok ()) (calls : List (String × String)) :
    (calls.foldl afterSet s).validate = .ok () := by
  induction calls generalizing s with
  | nil => exact h
  | cons call calls ih => exact ih (validate_afterSet h call)

/-- Writing a setting, reading it and checking the settings agree: a setting is written when its key is listed and its
text is one of its type that leads to valid settings; then the settings are valid, the setting reads as what has been
written and every other key as before.  A refusal changes nothing.  So the usual settings stay valid however they are
written by key, and a number is written as it reads. -/
theorem set_get_agree (h : s.validate = .ok ()) (key text : String) :
    ((∃ s', s.set key text = .ok s') ↔
      key ∈ s.list.map Prod.fst ∧
        ∃ (k : SettingKey) (s' : Settings), key = k.name ∧ s.Replaces k text s' ∧ s'.validate = .ok ()) ∧
    (∀ s', s.set key text = .ok s' →
      s'.validate = .ok () ∧
      (∀ (k : NumberKey) (n : Bounded k.range), key = (SettingKey.number k).name → IsNumeral k.range text n.val →
        s'.get key = .ok (toString n.val)) ∧
      (key = SettingKey.databasePath.name → s'.get key = .ok text) ∧
      ∀ other, other ≠ key → s'.get other = s.get other) ∧
    (∀ refusal, s.set key text = .error refusal → s.afterSet (key, text) = s) ∧
    (∀ calls : List (String × String), (calls.foldl afterSet ({} : Settings)).validate = .ok ()) ∧
    ∀ k : NumberKey, ∃ shown, s.get (SettingKey.number k).name = .ok shown ∧
      s.set (SettingKey.number k).name shown = .ok s := by
  refine ⟨?_, ?_, ?_, ?_, ?_⟩
  · rw [mem_list_iff]
    constructor
    · rintro ⟨s', hset⟩
      obtain ⟨k, hkey, hreplaces⟩ := (set_eq_ok_iff h).1 hset
      exact ⟨⟨k, hkey⟩, k, s', hkey, hreplaces⟩
    · rintro ⟨-, k, s', hreplaces⟩
      exact ⟨s', (set_eq_ok_iff h).2 ⟨k, hreplaces⟩⟩
  · intro s' hset
    -- setting succeeds for one key only, and names tell keys apart
    obtain ⟨k, rfl, hreplaces, hvalid⟩ := (set_eq_ok_iff h).1 hset
    refine ⟨hvalid, ?_, ?_, fun other hne => get_of_ne hreplaces hne⟩
    · intro l n hkey hn
      obtain rfl := SettingKey.name_injective hkey
      rw [get_name, hreplaces.textOf_number hn]
    · intro hkey
      obtain rfl := SettingKey.name_injective hkey
      obtain rfl := hreplaces
      exact get_name _ .databasePath
  · intro refusal hset
    rw [afterSet, hset]
  · exact validate_foldl_afterSet rfl
  · intro k
    refine ⟨toString (s.number k).val, ?_, ?_⟩
    · rw [get_name, textOf, Numeral.render_eq_toString]
    · refine (set_eq_ok_iff h).2 ⟨.number k, rfl, ?_, h⟩
      exact ⟨s.number k, Numeral.isNumeral_toString (s.number k), (s.withNumber_number k).symm⟩

/-- A numeral with a sign and leading zeros is written and reads without them. -/
theorem set_get_agree_leading_zeros :
    ({} : Settings).validate = .ok () ∧
      ∃ s', ({} : Settings).set "search.default_limit" "+007" = .ok s' ∧ s'.validate = .ok () ∧
        s'.get "search.default_limit" = .ok "7" ∧ s'.get "search.context_radius" = .ok "50" := by
  have hvalid : ({} : Settings).validate = .ok () := rfl
  have hnumeral : IsNumeral (NumberKey.range .defaultLimit) "+007" 7 :=
    ⟨['0', '0', '7'], by decide, List.all_eq_true.1 (by decide), .inl ⟨.inr (by decide), by decide⟩⟩
  obtain ⟨hwritten, hread, -⟩ := set_get_agree hvalid "search.default_limit" "+007"
  obtain ⟨s', hset⟩ := hwritten.2 ⟨by decide, .number .defaultLimit, ({} : Settings).withNumber .defaultLimit ⟨7, by decide⟩,
    by decide, ⟨⟨7, by decide⟩, hnumeral, rfl⟩, rfl⟩
  obtain ⟨hvalid', hnumber, -, hothers⟩ := hread s' hset
  refine ⟨hvalid, s', hset, hvalid', hnumber .defaultLimit ⟨7, by decide⟩ (by decide) hnumeral, ?_⟩
  rw [hothers _ (by decide)]
  rfl

end Settings

end WorkspaceSearch
