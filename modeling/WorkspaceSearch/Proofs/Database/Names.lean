import Mathlib.Data.List.Nodup
import WorkspaceSearch.Database.Answer
import WorkspaceSearch.Proofs.Database.Keys
import WorkspaceSearch.Proofs.Text.Folding

/-!
# Names of channels and users

A name stands for the channels and users whose name, as the database folds it, is that name in lower case, and for
those whose identifier it is (`mem_channelsNamed`, `mem_usersNamed`).  So a name stands for its own bearer
when it has no capital letter outside ASCII; with one it does not, unless it is an identifier as well.
-/

namespace WorkspaceSearch.Database

variable {db : Database} {names ids : List String}

/-! ### Lists of names -/

private theorem fitsValues_lowered (names : List String) :
    fitsValues [names.map Text.lower, names] = decide (2 * names.length ≤ StatementShape.valueLimit) := by
  simp [fitsValues, Nat.succ_mul]

private theorem fitsValues_lowered_twice (names : List String) :
    fitsValues [names.map Text.lower, names.map Text.lower, names] =
      decide (3 * names.length ≤ StatementShape.valueLimit) := by
  simp [fitsValues, Nat.succ_mul, Nat.add_assoc]

/-- Names are looked up unless there are too many; without names nothing is found. -/
private theorem guardLookup_names {values : Nat} {found : List String} (hnone : names = [] → found = []) :
    guardLookup names.isEmpty (decide (values * names.length ≤ StatementShape.valueLimit)) false (.ok found) =
      if StatementShape.valueLimit < values * names.length then .error .tooComplex else .ok found := by
  unfold guardLookup
  cases names with
  | nil =>
    rw [hnone rfl]
    rfl
  | cons name names =>
    by_cases h : values * (name :: names).length ≤ StatementShape.valueLimit
    · rw [decide_eq_true h, if_neg (Nat.not_lt.2 h)]
      rfl
    · rw [decide_eq_false h, if_pos (Nat.not_le.1 h)]
      rfl

/-! ### Channels -/

/-- The identifiers of the channels that some names stand for, in the order of the names of the channels. -/
def channelsNamed (db : Database) (names : List String) : List String :=
  ((db.channels.toList.filter fun c =>
    (names.map Text.lower).contains (Text.asciiLower c.name) || names.contains c.id).mergeSort
      fun c d => c.name ≤ d.name).map (·.id)

theorem mem_channelsNamed {id : String} : id ∈ db.channelsNamed names ↔
    ∃ c ∈ db.channels.toList, c.id = id ∧ ∃ name ∈ names, Text.FoldsTo name c.name ∨ name = c.id := by
  simp only [channelsNamed, List.mem_map, List.mem_mergeSort, List.mem_filter, Bool.or_eq_true, List.contains_iff_mem]
  constructor
  · rintro ⟨c, ⟨hc, ⟨name, hname, hfolds⟩ | hid⟩, rfl⟩
    · exact ⟨c, hc, rfl, name, hname, .inl hfolds⟩
    · exact ⟨c, hc, rfl, c.id, hid, .inr rfl⟩
  · rintro ⟨c, hc, rfl, name, hname, hfolds | rfl⟩
    · exact ⟨c, ⟨hc, .inl ⟨name, hname, hfolds⟩⟩, rfl⟩
    · exact ⟨c, ⟨hc, .inr hname⟩, rfl⟩

theorem resolveChannelIds_of_names (db : Database) (names : List String) :
    db.resolveChannelIds names =
      if StatementShape.valueLimit < 2 * names.length then .error .tooComplex else .ok (db.channelsNamed names) := by
  have hnone : names = [] → db.channelsNamed names = [] := by
    rintro rfl
    refine List.eq_nil_iff_forall_not_mem.2 fun id hid => ?_
    obtain ⟨_, _, _, name, hname, _⟩ := mem_channelsNamed.1 hid
    cases hname
  rw [← guardLookup_names hnone, ← fitsValues_lowered]
  rfl

/-! ### Users -/

/-- The identifiers of the users that some names stand for, in the order of their usernames. -/
def usersNamed (db : Database) (names : List String) : List String :=
  ((db.users.toList.filter fun u =>
    (names.map Text.lower).contains (Text.asciiLower u.username) ||
      (names.map Text.lower).contains (Text.asciiLower u.email) || names.contains u.id).mergeSort
        fun u v => u.username ≤ v.username).map (·.id)

theorem mem_usersNamed {id : String} : id ∈ db.usersNamed names ↔ ∃ u ∈ db.users.toList, u.id = id ∧
    ∃ name ∈ names, Text.FoldsTo name u.username ∨ Text.FoldsTo name u.email ∨ name = u.id := by
  simp only [usersNamed, List.mem_map, List.mem_mergeSort, List.mem_filter, Bool.or_eq_true, List.contains_iff_mem]
  constructor
  · rintro ⟨u, ⟨hu, (⟨name, hname, hfolds⟩ | ⟨name, hname, hfolds⟩) | hid⟩, rfl⟩
    · exact ⟨u, hu, rfl, name, hname, .inl hfolds⟩
    · exact ⟨u, hu, rfl, name, hname, .inr (.inl hfolds)⟩
    · exact ⟨u, hu, rfl, u.id, hid, .inr (.inr rfl)⟩
  · rintro ⟨u, hu, rfl, name, hname, hfolds | hfolds | rfl⟩
    · exact ⟨u, ⟨hu, .inl (.inl ⟨name, hname, hfolds⟩)⟩, rfl⟩
    · exact ⟨u, ⟨hu, .inl (.inr ⟨name, hname, hfolds⟩)⟩, rfl⟩
    · exact ⟨u, ⟨hu, .inr hname⟩, rfl⟩

theorem resolveUserIds_of_names (db : Database) (names : List String) :
    db.resolveUserIds names =
      if StatementShape.valueLimit < 3 * names.length then .error .tooComplex else .ok (db.usersNamed names) := by
  have hnone : names = [] → db.usersNamed names = [] := by
    rintro rfl
    refine List.eq_nil_iff_forall_not_mem.2 fun id hid => ?_
    obtain ⟨_, _, _, name, hname, _⟩ := mem_usersNamed.1 hid
    cases hname
  rw [← guardLookup_names hnone, ← fitsValues_lowered_twice]
  rfl

/-! ### Bearers -/

/-- Every list of names that is not too long and has a name in it leads to the channel with an identifier. -/
def LeadsToChannel (db : Database) (name id : String) : Prop :=
  ∀ names, name ∈ names → 2 * names.length ≤ StatementShape.valueLimit →
    ∃ ids, answer (.resolveChannelIds names) db = (.ok ids, db) ∧ id ∈ ids

/-- Every list of names that is not too long and has a name in it leads to the user with an identifier. -/
def LeadsToUser (db : Database) (name id : String) : Prop :=
  ∀ names, name ∈ names → 3 * names.length ≤ StatementShape.valueLimit →
    ∃ ids, answer (.resolveUserIds names) db = (.ok ids, db) ∧ id ∈ ids

theorem answer_resolveChannelIds (h : 2 * names.length ≤ StatementShape.valueLimit) :
    answer (.resolveChannelIds names) db = (.ok (db.channelsNamed names), db) := by
  rw [answer, resolveChannelIds_of_names, if_neg (Nat.not_lt.2 h)]
  rfl

theorem answer_resolveUserIds (h : 3 * names.length ≤ StatementShape.valueLimit) :
    answer (.resolveUserIds names) db = (.ok (db.usersNamed names), db) := by
  rw [answer, resolveUserIds_of_names, if_neg (Nat.not_lt.2 h)]
  rfl

/-- A name leads to a channel when it folds to its name or is its identifier, and not otherwise. -/
theorem leadsToChannel_iff (hkeyed : db.Keyed) {c : Stored.Channel} (hc : c ∈ db.channels.toList) {name : String} :
    db.LeadsToChannel name c.id ↔ Text.FoldsTo name c.name ∨ name = c.id := by
  constructor
  · intro h
    have hone : 2 * [name].length ≤ StatementShape.valueLimit := show 2 * 1 ≤ 32766 by decide
    obtain ⟨ids, hanswer, hid⟩ := h [name] (List.mem_singleton_self name) hone
    rw [answer_resolveChannelIds hone] at hanswer
    obtain rfl := Except.ok.inj (Prod.mk.inj hanswer).1
    obtain ⟨d, hd, hsame, name', hname', hfits⟩ := mem_channelsNamed.1 hid
    rw [List.mem_singleton.1 hname', List.inj_on_of_nodup_map hkeyed.channels hd hc hsame] at hfits
    exact hfits
  · intro h names hname hfits
    exact ⟨_, answer_resolveChannelIds hfits, mem_channelsNamed.2 ⟨c, hc, rfl, name, hname, h⟩⟩

/-- A name leads to a user when it folds to their username or address or is their identifier, and not otherwise. -/
theorem leadsToUser_iff (hkeyed : db.Keyed) {u : Stored.User} (hu : u ∈ db.users.toList) {name : String} :
    db.LeadsToUser name u.id ↔ Text.FoldsTo name u.username ∨ Text.FoldsTo name u.email ∨ name = u.id := by
  constructor
  · intro h
    have hone : 3 * [name].length ≤ StatementShape.valueLimit := show 3 * 1 ≤ 32766 by decide
    obtain ⟨ids, hanswer, hid⟩ := h [name] (List.mem_singleton_self name) hone
    rw [answer_resolveUserIds hone] at hanswer
    obtain rfl := Except.ok.inj (Prod.mk.inj hanswer).1
    obtain ⟨v, hv, hsame, name', hname', hfits⟩ := mem_usersNamed.1 hid
    rw [List.mem_singleton.1 hname', List.inj_on_of_nodup_map hkeyed.users hv hu hsame] at hfits
    exact hfits
  · intro h names hname hfits
    exact ⟨_, answer_resolveUserIds hfits, mem_usersNamed.2 ⟨u, hu, rfl, name, hname, h⟩⟩

end WorkspaceSearch.Database
