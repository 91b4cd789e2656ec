import Mathlib.Data.List.Basic

/-!
# Outcomes

Facts about outcomes that may be errors: when a chain of steps has an outcome, and how the outcomes of the elements of a
list are related to the elements.  An outcome may begin another one (`Begins`).
-/

namespace WorkspaceSearch

namespace Outcome

variable {ε α β : Type}

theorem ok_bind (a : α) (f : α → Except ε β) : (Except.ok a >>= f) = f a := rfl

theorem bind_eq_ok {x : Except ε α} {f : α → Except ε β} {b : β} :
    x >>= f = .ok b ↔ ∃ a, x = .ok a ∧ f a = .ok b := by
  cases x with
  | error e => exact iff_of_false nofun (by rintro ⟨a, h, -⟩; cases h)
  | ok a =>
    constructor
    · intro h
      exact ⟨a, rfl, h⟩
    · rintro ⟨a', ha', h⟩
      cases ha'
      exact h

private theorem mapM_cons_eq_ok {f : α → Except ε β} {a : α} {as : List α} {bs : List β} :
    (a :: as).mapM f = .ok bs ↔ ∃ b bs', f a = .ok b ∧ as.mapM f = .ok bs' ∧ bs = b :: bs' := by
  rw [List.mapM_cons]
  constructor
  · intro h
    obtain ⟨b, hb, h⟩ := bind_eq_ok.1 h
    obtain ⟨bs', hbs', h⟩ := bind_eq_ok.1 h
    exact ⟨b, bs', hb, hbs', (Except.ok.inj h).symm⟩
  · rintro ⟨b, bs', hb, hbs', rfl⟩
    rw [hb, hbs']
    rfl

/-- What the outcomes keep of the elements they keep in order. -/
theorem map_eq_of_mapM {γ : Type} {f : α → Except ε β} {key : α → γ} {key' : β → γ}
    (hkey : ∀ a b, f a = .ok b → key' b = key a) {as : List α} {bs : List β} (h : as.mapM f = .ok bs) :
    bs.map key' = as.map key := by
  induction as generalizing bs with
  | nil =>
    obtain rfl := Except.ok.inj h
    rfl
  | cons a as ih =>
    obtain ⟨b, bs', ha, has, rfl⟩ := mapM_cons_eq_ok.1 h
    rw [List.map_cons, List.map_cons, hkey a b ha, ih has]

theorem mapM_congr {f g : α → Except ε β} {as : List α} (h : ∀ a ∈ as, f a = g a) : as.mapM f = as.mapM g := by
  induction as with
  | nil => rfl
  | cons a as ih =>
    rw [List.mapM_cons, List.mapM_cons, h a List.mem_cons_self, ih fun b hb => h b (List.mem_cons_of_mem _ hb)]

/-- The outcomes of a list are the outcomes of its elements. -/
theorem mem_of_mapM {f : α → Except ε β} {as : List α} {bs : List β} (h : as.mapM f = .ok bs) {b : β} :
    b ∈ bs ↔ ∃ a ∈ as, f a = .ok b := by
  have hmap : bs.map .ok = as.map f := map_eq_of_mapM (fun a b hb => hb.symm) h
  rw [← List.mem_map, ← hmap, List.mem_map_of_injective fun _ _ => Except.ok.inj]

theorem mapM_map_eq_ok {γ : Type} {f : α → Except ε β} {g : γ → α} {k : γ → β} {cs : List γ}
    (h : ∀ c ∈ cs, f (g c) = .ok (k c)) : (cs.map g).mapM f = .ok (cs.map k) := by
  induction cs with
  | nil => rfl
  | cons c cs ih =>
    rw [List.map_cons, List.mapM_cons, h c List.mem_cons_self, ih fun d hd => h d (List.mem_cons_of_mem c hd)]
    rfl

theorem length_of_mapM {f : α → Except ε β} {as : List α} {bs : List β} (h : as.mapM f = .ok bs) :
    bs.length = as.length := by
  have hmap : bs.map .ok = as.map f := map_eq_of_mapM (fun a b hb => hb.symm) h
  simpa using congrArg List.length hmap

/-- A list has outcomes when all its elements have one. -/
theorem exists_mapM_ok {f : α → Except ε β} {as : List α} (h : ∀ a ∈ as, ∃ b, f a = .ok b) :
    ∃ bs, as.mapM f = .ok bs := by
  induction as with
  | nil => exact ⟨[], rfl⟩
  | cons a as ih =>
    obtain ⟨b, hb⟩ := h a List.mem_cons_self
    obtain ⟨bs, hbs⟩ := ih fun c hc => h c (List.mem_cons_of_mem a hc)
    exact ⟨b :: bs, by rw [List.mapM_cons, hb, hbs]; rfl⟩

/-- The outcomes of a list in another order are the same in another order. -/
theorem exists_mapM_of_perm {f : α → Except ε β} {as as' : List α} (h : as.Perm as') {bs : List β}
    (has : as.mapM f = .ok bs) : ∃ bs', as'.mapM f = .ok bs' ∧ bs'.Perm bs := by
  induction h generalizing bs with
  | nil => exact ⟨bs, has, .refl bs⟩
  | cons a _ ih =>
    obtain ⟨b, rest, ha, hrest, rfl⟩ := mapM_cons_eq_ok.1 has
    obtain ⟨rest', hrest', hperm⟩ := ih hrest
    exact ⟨b :: rest', mapM_cons_eq_ok.2 ⟨b, rest', ha, hrest', rfl⟩, hperm.cons b⟩
  | swap a a' as =>
    obtain ⟨b', _, ha', hmore, rfl⟩ := mapM_cons_eq_ok.1 has
    obtain ⟨b, rest, ha, hrest, rfl⟩ := mapM_cons_eq_ok.1 hmore
    have hswap := mapM_cons_eq_ok.2 ⟨b, _, ha, mapM_cons_eq_ok.2 ⟨b', rest, ha', hrest, rfl⟩, rfl⟩
    exact ⟨b :: b' :: rest, hswap, .swap b' b rest⟩
  | trans _ _ ih ih' =>
    obtain ⟨bs', hbs', hperm⟩ := ih has
    obtain ⟨bs'', hbs'', hperm'⟩ := ih' hbs'
    exact ⟨bs'', hbs'', hperm'.trans hperm⟩

theorem mapM_take {f : α → Except ε β} {as : List α} {bs : List β} (h : as.mapM f = .ok bs) (n : Nat) :
    (as.take n).mapM f = .ok (bs.take n) := by
  induction as generalizing bs n with
  | nil =>
    have hnil : [] = bs := Except.ok.inj h
    rw [← hnil, List.take_nil, List.take_nil]
    rfl
  | cons a as ih =>
    obtain ⟨b, rest, ha, hrest, rfl⟩ := mapM_cons_eq_ok.1 h
    cases n with
    | zero => rfl
    | succ n => exact mapM_cons_eq_ok.2 ⟨b, rest.take n, ha, ih hrest n, rfl⟩

theorem mapM_drop {f : α → Except ε β} {as : List α} {bs : List β} (h : as.mapM f = .ok bs) (n : Nat) :
    (as.drop n).mapM f = .ok (bs.drop n) := by
  induction as generalizing bs n with
  | nil =>
    have hnil : [] = bs := Except.ok.inj h
    rw [← hnil, List.drop_nil, List.drop_nil]
    rfl
  | cons a as ih =>
    cases n with
    | zero => exact h
    | succ n =>
      obtain ⟨b, rest, -, hrest, rfl⟩ := mapM_cons_eq_ok.1 h
      exact ih hrest n

/-- Two passes over a list come to what one pass comes to, if that has an outcome. -/
theorem mapM_twice_eq_ok {γ : Type} {f : α → Except ε β} {g : α × β → Except ε γ} {as : List α} {cs : List γ} :
    ((as.mapM fun a => do return (a, ← f a)) >>= List.mapM g) = .ok cs ↔
      as.mapM (fun a => f a >>= fun b => g (a, b)) = .ok cs := by
  induction as generalizing cs with
  | nil => exact Iff.rfl
  | cons a as ih =>
    constructor
    · intro h
      obtain ⟨pairs, hpairs, hcs⟩ := bind_eq_ok.1 h
      obtain ⟨pair, rest, hpair, hrest, rfl⟩ := mapM_cons_eq_ok.1 hpairs
      obtain ⟨c, cs, hc, hmore, rfl⟩ := mapM_cons_eq_ok.1 hcs
      obtain ⟨b, hb, hpair⟩ := bind_eq_ok.1 hpair
      obtain rfl := Except.ok.inj hpair
      have hone := ih.1 (bind_eq_ok.2 ⟨rest, hrest, hmore⟩)
      exact mapM_cons_eq_ok.2 ⟨c, cs, bind_eq_ok.2 ⟨b, hb, hc⟩, hone, rfl⟩
    · intro h
      obtain ⟨c, cs, hc, hmore, rfl⟩ := mapM_cons_eq_ok.1 h
      obtain ⟨b, hb, hc⟩ := bind_eq_ok.1 hc
      obtain ⟨pairs, hpairs, hcs⟩ := bind_eq_ok.1 (ih.2 hmore)
      have hpair : (do return (a, ← f a)) = (.ok (a, b) : Except ε (α × β)) := bind_eq_ok.2 ⟨b, hb, rfl⟩
      exact bind_eq_ok.2 ⟨(a, b) :: pairs, mapM_cons_eq_ok.2 ⟨_, pairs, hpair, hpairs, rfl⟩,
        mapM_cons_eq_ok.2 ⟨c, cs, hc, hcs, rfl⟩⟩

/-- Elements may be left out before or after their outcomes are taken. -/
theorem mapM_filter {f : α → Except ε β} {p : α → Bool} {q : β → Bool} {as : List α} {bs : List β}
    (hpq : ∀ a ∈ as, ∀ b, f a = .ok b → q b = p a) (h : as.mapM f = .ok bs) :
    (as.filter p).mapM f = .ok (bs.filter q) := by
  induction as generalizing bs with
  | nil =>
    obtain rfl := Except.ok.inj h
    rfl
  | cons a as ih =>
    obtain ⟨b, bs', ha, has, rfl⟩ := mapM_cons_eq_ok.1 h
    have hrest := ih (fun c hc => hpq c (List.mem_cons_of_mem a hc)) has
    rw [List.filter_cons, List.filter_cons, hpq a List.mem_cons_self b ha]
    split
    · rw [List.mapM_cons, ha, hrest]
      rfl
    · exact hrest

/-! The same for elements that may have no outcome at all. -/

theorem map_eq_of_mapM_some {γ : Type} {f : α → Option β} {key : α → γ} {key' : β → γ}
    (hkey : ∀ a b, f a = some b → key' b = key a) {as : List α} {bs : List β} (h : as.mapM f = some bs) :
    bs.map key' = as.map key := by
  induction as generalizing bs with
  | nil =>
    obtain rfl := Option.some.inj h
    rfl
  | cons a as ih =>
    simp only [List.mapM_cons, Option.bind_eq_bind, Option.bind_eq_some_iff, Option.pure_def, Option.some.injEq] at h
    obtain ⟨c, ha, cs, has, rfl⟩ := h
    rw [List.map_cons, List.map_cons, hkey a c ha, ih has]

theorem mem_of_mapM_some {f : α → Option β} {as : List α} {bs : List β} (h : as.mapM f = some bs) {b : β} :
    b ∈ bs ↔ ∃ a ∈ as, f a = some b := by
  have hmap : bs.map some = as.map f := map_eq_of_mapM_some (fun a b hb => hb.symm) h
  rw [← List.mem_map, ← hmap, List.mem_map_of_injective fun _ _ => Option.some.inj]

theorem length_of_mapM_some {f : α → Option β} {as : List α} {bs : List β} (h : as.mapM f = some bs) :
    bs.length = as.length := by
  have hmap : bs.map some = as.map f := map_eq_of_mapM_some (fun a b hb => hb.symm) h
  simpa using congrArg List.length hmap

theorem mapM_some_filter {f : α → Option β} {p : α → Bool} {q : β → Bool} {as : List α} {bs : List β}
    (hpq : ∀ a ∈ as, ∀ b, f a = some b → q b = p a) (h : as.mapM f = some bs) :
    (as.filter p).mapM f = some (bs.filter q) := by
  induction as generalizing bs with
  | nil =>
    obtain rfl := Option.some.inj h
    rfl
  | cons a as ih =>
    simp only [List.mapM_cons, Option.bind_eq_bind, Option.bind_eq_some_iff, Option.pure_def, Option.some.injEq] at h
    obtain ⟨b, ha, bs', has, rfl⟩ := h
    have hrest := ih (fun c hc => hpq c (List.mem_cons_of_mem a hc)) has
    rw [List.filter_cons, List.filter_cons, hpq a List.mem_cons_self b ha]
    split
    · rw [List.mapM_cons, ha, hrest]
      rfl
    · exact hrest

theorem mapM_eq_some_map {f : α → Option β} {g : α → β} {as : List α} (h : ∀ a ∈ as, f a = some (g a)) :
    as.mapM f = some (as.map g) := by
  induction as with
  | nil => rfl
  | cons a as ih =>
    rw [List.mapM_cons, h a List.mem_cons_self, ih fun b hb => h b (List.mem_cons_of_mem a hb)]
    rfl

theorem mapM_eq_none {f : α → Option β} {as : List α} {a : α} (ha : a ∈ as) (h : f a = none) : as.mapM f = none := by
  cases hmap : as.mapM f with
  | none => rfl
  | some bs =>
    have hsome : bs.map some = as.map f := map_eq_of_mapM_some (fun a b hb => hb.symm) hmap
    have hmem : f a ∈ bs.map some := hsome ▸ List.mem_map_of_mem ha
    obtain ⟨b, -, hb⟩ := List.mem_map.1 hmem
    rw [h] at hb
    cases hb

theorem exists_mapM_some {f : α → Option β} {as : List α} (h : ∀ a ∈ as, ∃ b, f a = some b) :
    ∃ bs, as.mapM f = some bs := by
  induction as with
  | nil => exact ⟨[], rfl⟩
  | cons a as ih =>
    obtain ⟨b, hb⟩ := h a List.mem_cons_self
    obtain ⟨bs, hbs⟩ := ih fun c hc => h c (List.mem_cons_of_mem a hc)
    exact ⟨b :: bs, by rw [List.mapM_cons, hb, hbs]; rfl⟩

end Outcome

/-- Whenever there is a wide answer there is a narrow one, with which the wide answer begins. -/
def Begins {ε α : Type} (narrow wide : Except ε (List α)) : Prop :=
  ∀ all, wide = .ok all → ∃ front, narrow = .ok front ∧ front <+: all

namespace Begins

variable {ε ε' α β γ : Type}

theorem refl (x : Except ε (List α)) : Begins x x := fun all h => ⟨all, h, List.prefix_refl all⟩

theorem ok {xs ys : List α} (h : xs <+: ys) : Begins (.ok xs : Except ε (List α)) (.ok ys) := by
  intro all hall
  obtain rfl := Except.ok.inj hall
  exact ⟨xs, rfl, h⟩

theorem error (x : Except ε (List α)) (e : ε) : Begins x (.error e) := by
  intro all hall
  cases hall

theorem mapError {x y : Except ε (List α)} (h : Begins x y) (f : ε → ε') : Begins (x.mapError f) (y.mapError f) := by
  cases y with
  | error e => exact error _ _
  | ok all =>
    obtain ⟨front, rfl, hfront⟩ := h all rfl
    exact ok hfront

theorem bind {x y : Except ε (List α)} (h : Begins x y) {f g : List α → Except ε (List β)}
    (hfg : ∀ front all, front <+: all → Begins (f front) (g all)) : Begins (x >>= f) (y >>= g) := by
  cases y with
  | error e => exact error _ _
  | ok all =>
    obtain ⟨front, rfl, hfront⟩ := h all rfl
    exact hfg front all hfront

theorem bind_right (x : Except ε γ) {f g : γ → Except ε (List β)} (h : ∀ c, Begins (f c) (g c)) :
    Begins (x >>= f) (x >>= g) := by
  cases x with
  | error e => exact error _ _
  | ok c => exact h c

theorem ite {c : Prop} [Decidable c] (z : Except ε (List α)) {x y : Except ε (List α)} (h : Begins x y) :
    Begins (if c then z else x) (if c then z else y) := by
  split
  · exact refl z
  · exact h

theorem mapM (f : α → Except ε β) {xs ys : List α} (h : xs <+: ys) : Begins (xs.mapM f) (ys.mapM f) := by
  obtain ⟨zs, rfl⟩ := h
  rw [List.mapM_append]
  cases xs.mapM f with
  | error e => exact error _ _
  | ok front =>
    cases zs.mapM f with
    | error e => exact error _ _
    | ok rest => exact ok (List.prefix_append front rest)

end Begins

end WorkspaceSearch
