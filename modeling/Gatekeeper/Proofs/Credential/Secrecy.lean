import Gatekeeper.Proofs.Credential.GuardedRun

/-!
# What is seen of a password

Two runs of the guard over attempts that differ in their passwords alone are told apart by nothing
but the passwords that the binder is called with. Of a password the outline of an attempt keeps the
verdict (`Attempt.outline`), and of a world as much is seen as a view shows.

A binder is `Blind` to passwords when it lets no more be seen of a call than of another one with the
same target. Over such a binder one guarded bind shows the outline of its attempt alone
(`guarded_blind`), and by induction so does a run (`guardedAll_blind`). The scripted binder is blind
when of its calls the targets are seen (`scripted_blind`).
-/

namespace Gatekeeper.Credential

variable {σ τ : Type} {view : σ → τ} {binder : Binder σ}

/-! ## Lists that agree in a part -/

/-- Induction on two lists whose elements agree, place by place, in the part that `g` keeps. -/
theorem map_eq_induction {α β : Type} {g : α → β} {motive : List α → List α → Prop}
    (nil : motive [] [])
    (cons : ∀ a b as bs, g a = g b → motive as bs → motive (a :: as) (b :: bs))
    {as bs : List α} (h : as.map g = bs.map g) : motive as bs := by
  induction as generalizing bs with
  | nil =>
    obtain rfl : bs = [] := List.map_eq_nil_iff.1 h.symm
    exact nil
  | cons a as ih =>
    obtain ⟨b, bs, rfl, hab, hs⟩ := List.map_eq_cons_iff.1 h.symm
    exact cons a b as bs hab.symm (ih hs.symm)

theorem map_eq_of_map_eq {α β γ : Type} {f : α → β} {g : α → γ}
    (hf : ∀ a b, g a = g b → f a = f b) {as bs : List α} (h : as.map g = bs.map g) :
    as.map f = bs.map f := by
  refine map_eq_induction (motive := fun as bs => as.map f = bs.map f) rfl ?_ h
  intro a b as bs hab ih
  rw [List.map_cons, List.map_cons, hf a b hab, ih]

/-! ## Outlines -/

/-- What is known of an attempt without its password: where it goes, under which name, and the
verdict on it. -/
structure Outline where
  server : String
  bindDn : String
  verdict : Verdict

/-- The outline of an attempt. -/
def Attempt.outline (a : Attempt) : Outline := ⟨a.server, a.bindDn, a.verdict⟩

/-- Where a cleared attempt goes, and under which name. -/
def Cleared.target (c : Cleared) : String × String := (c.server, c.bindDn)

theorem target_eq_of_outline {c d : Cleared} (h : c.toAttempt.outline = d.toAttempt.outline) :
    c.target = d.target := by
  have server : c.server = d.server := congrArg Outline.server h
  have name : c.bindDn = d.bindDn := congrArg Outline.bindDn h
  rw [Cleared.target, Cleared.target, server, name]

theorem closingEvent_eq {c d : Cleared} (h : c.target = d.target) (r : Except Failure Unit) :
    closingEvent c r = closingEvent d r := by
  obtain ⟨server, name⟩ := Prod.mk.inj h
  cases r with
  | ok u => simp only [closingEvent, boundEvent, server, name]
  | error f => simp only [closingEvent, failedEvent, server, name]

/-! ## Blind binders -/

/-- A step of whose world no more is seen than `view` shows. -/
def Traced.seen {α : Type} (view : σ → τ) (t : Traced σ α) : Traced τ α :=
  ⟨t.result, t.events, view t.world⟩

/-- Calls of one target, in worlds that look alike, look alike. -/
def Blind (view : σ → τ) (binder : Binder σ) : Prop :=
  ∀ c d : Cleared, c.target = d.target → ∀ w w', view w = view w' →
    (binder c w).seen view = (binder d w').seen view

/-- **One guarded bind** shows the outline of its attempt alone. -/
theorem guarded_blind (hb : Blind view binder) {a b : Attempt} (h : a.outline = b.outline)
    {w w' : σ} (hw : view w = view w') :
    (guarded binder a w).seen view = (guarded binder b w').seen view := by
  have verdict : a.verdict = b.verdict := congrArg Outline.verdict h
  by_cases ha : a.verdict = .allow
  · obtain ⟨c, rfl⟩ := exists_cleared_of_allow ha
    obtain ⟨d, rfl⟩ := exists_cleared_of_allow (verdict.symm.trans ha)
    have target := target_eq_of_outline h
    obtain ⟨result, events, world⟩ := Traced.mk.inj (hb c d target w w' hw)
    simp only [guarded_toAttempt, Traced.seen, result, events, world, closingEvent_eq target]
  · have server : a.server = b.server := congrArg Outline.server h
    have hb' : b.verdict ≠ .allow := fun hv => ha (verdict.trans hv)
    simp only [guarded_of_rejected ha, guarded_of_rejected hb', Traced.seen, verdict, server, hw]

/-- **A run** shows the outlines of its attempts alone. -/
theorem guardedAll_blind (hb : Blind view binder) {as bs : List Attempt}
    (h : as.map Attempt.outline = bs.map Attempt.outline) (w w' : σ) (hw : view w = view w') :
    (guardedAll binder as w).map (Traced.seen view) =
      (guardedAll binder bs w').map (Traced.seen view) := by
  revert w w'
  refine map_eq_induction (motive := fun as bs => ∀ w w', view w = view w' →
    (guardedAll binder as w).map (Traced.seen view) =
      (guardedAll binder bs w').map (Traced.seen view)) (fun _ _ _ => rfl) ?_ h
  intro a b as bs hab ih w w' hw
  -- The worlds that the first step leaves look alike again.
  have step := guarded_blind hb hab hw
  have later := ih _ _ (congrArg Traced.world step)
  rw [guardedAll, guardedAll, List.map_cons, List.map_cons, step, later]

theorem worldAfter_blind (hb : Blind view binder) {as bs : List Attempt}
    (h : as.map Attempt.outline = bs.map Attempt.outline) (w w' : σ) (hw : view w = view w') :
    view (worldAfter binder as w) = view (worldAfter binder bs w') := by
  revert w w'
  refine map_eq_induction (motive := fun as bs => ∀ w w', view w = view w' →
    view (worldAfter binder as w) = view (worldAfter binder bs w')) (fun _ _ hw => hw) ?_ h
  intro a b as bs hab ih w w' hw
  have step := guarded_blind hb hab hw
  exact ih _ _ (congrArg Traced.world step)

/-- Of the calls of a scripted binder the targets are seen, and they do not show the passwords. -/
theorem scripted_blind (script : Nat → Except Failure Unit) :
    Blind (List.map Cleared.target) (scripted script) := by
  intro c d target calls calls' h
  have count : calls.length = calls'.length := by simpa using congrArg List.length h
  simp only [scripted, Traced.seen, count, List.map_append, h, List.map_cons, target, List.map_nil]

/-! ## Shown terms -/

/-- What an attempt shows: its outline, and whether there is a password. -/
def Attempt.surface (a : Attempt) : Outline × Bool := (a.outline, a.password.isSome)

theorem outline_eq_of_surface {a b : Attempt} (h : a.surface = b.surface) :
    a.outline = b.outline :=
  (Prod.mk.inj h).1

theorem shown_eq_of_surface {a b : Attempt} (h : a.surface = b.surface) : a.shown = b.shown := by
  obtain ⟨h, hp⟩ := Prod.mk.inj h
  obtain ⟨server, dn, p⟩ := a
  obtain ⟨server', dn', p'⟩ := b
  obtain rfl : server = server' := congrArg Outline.server h
  obtain rfl : dn = dn' := congrArg Outline.bindDn h
  rcases p with - | p <;> rcases p' with - | p'
  · rfl
  · cases hp
  · cases hp
  · rfl

theorem shown_eq_of_target {c d : Cleared} (h : c.target = d.target) : c.shown = d.shown := by
  obtain ⟨server, dn, p, hc⟩ := c
  obtain ⟨server', dn', p', hd⟩ := d
  obtain ⟨rfl, rfl⟩ := Prod.mk.inj h
  rfl

/-- What `check` makes of an attempt is shown by its outline. -/
theorem shown_check_eq {a b : Attempt} (h : a.outline = b.outline) :
    a.check.map Cleared.shown = b.check.map Cleared.shown := by
  have verdict : a.verdict = b.verdict := congrArg Outline.verdict h
  by_cases ha : a.verdict = .allow
  · obtain ⟨c, rfl⟩ := exists_cleared_of_allow ha
    obtain ⟨d, rfl⟩ := exists_cleared_of_allow (verdict.symm.trans ha)
    simp only [check_toAttempt, Except.map, shown_eq_of_target (target_eq_of_outline h)]
  · have hb : b.verdict ≠ .allow := fun hv => ha (verdict.trans hv)
    simp only [check_of_rejected ha, check_of_rejected hb, Except.map, verdict]

/-- **Runs over a scripted binder** show the surfaces of their attempts alone: in results and
events, in the targets of the calls, and in the terms before and after validation. -/
theorem runs_show_surfaces (script : Nat → Except Failure Unit) {as bs : List Attempt}
    (h : as.map Attempt.surface = bs.map Attempt.surface) :
    (guardedAll (scripted script) as []).map (Traced.seen (List.map Cleared.target)) =
      (guardedAll (scripted script) bs []).map (Traced.seen (List.map Cleared.target)) ∧
    (callsOf script as).map Cleared.target = (callsOf script bs).map Cleared.target ∧
    as.map Attempt.shown = bs.map Attempt.shown ∧
    as.map (fun a => a.check.map Cleared.shown) = bs.map fun a => a.check.map Cleared.shown := by
  have outlines := map_eq_of_map_eq (fun _ _ => outline_eq_of_surface) h
  have blind := scripted_blind script
  refine ⟨guardedAll_blind blind outlines _ _ rfl, worldAfter_blind blind outlines _ _ rfl, ?_, ?_⟩
  · exact map_eq_of_map_eq (fun _ _ => shown_eq_of_surface) h
  · exact map_eq_of_map_eq (fun _ _ => shown_check_eq) outlines

end Gatekeeper.Credential
