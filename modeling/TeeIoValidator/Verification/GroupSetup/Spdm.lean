import TeeIoValidator.Verification.GroupSetup.Steps

/-! The SPDM context and the session of a set-up. -/

namespace TeeIoValidator.GroupSetup

open Fallible

/-! ## `spdm_client_init` -/

/-- Whether `spdm_client_init` returns a context. -/
def SpdmClient.succeeds (client : SpdmClient) : Bool :=
  client.contextMemory && client.scratchMemory && client.versionOverride && client.initConnection

def SpdmClient.checks (client : SpdmClient) : Checks := [(.spdmContext, some client.succeeds)]

theorem returns_spdmClientInit (client : SpdmClient) (w : World) :
    (spdmClientInit client).Returns w (some client.succeeds) fun b w' =>
      SameFiles w w' ∧ w'.spdmContext = b := by
  obtain ⟨contextMemory, scratchMemory, versionOverride, initConnection⟩ := client
  cases contextMemory with
  | false => exact ⟨_, rfl, ⟨rfl, rfl, rfl⟩, rfl⟩
  | true =>
      cases scratchMemory with
      | false => exact ⟨_, rfl, ⟨rfl, rfl, rfl⟩, rfl⟩
      | true =>
          cases versionOverride with
          | false => exact ⟨_, rfl, ⟨rfl, rfl, rfl⟩, rfl⟩
          | true =>
              cases initConnection with
              | false => exact ⟨_, rfl, ⟨rfl, rfl, rfl⟩, rfl⟩
              | true => exact ⟨_, rfl, ⟨rfl, rfl, rfl⟩, rfl⟩

/-! ## `spdm_connect` -/

def SpdmConnection.checks (connection : SpdmConnection) : Checks :=
  [(.spdmConnection, connection.certificate),
    (.session, connection.session.map Option.isSome),
    (.session, connection.measurement)]

/-- The session that is established is known to the caller. -/
def Established (w : World) : Prop := w.sessionId ∈ w.process.sessions

theorem returns_startSession (session : Option (Option ℕ)) (w : World) :
    (startSession session).Returns w (session.map Option.isSome) fun b w' =>
      SameFiles w w' ∧ w'.spdmContext = w.spdmContext ∧ (b = true → Established w') := by
  match session with
  | none => rfl
  | some none => exact ⟨w, rfl, .rfl w, rfl, nofun⟩
  | some (some id) => exact ⟨_, rfl, ⟨rfl, rfl, rfl⟩, rfl, fun _ => List.mem_cons_self⟩

theorem returns_spdmConnect (connection : SpdmConnection) (w : World) :
    (spdmConnect connection).Returns w (all connection.checks) fun b w' =>
      SameFiles w w' ∧ w'.spdmContext = w.spdmContext ∧ (b = true → Established w') := by
  rw [SpdmConnection.checks, all, all, all, all, both_right_true]
  refine returns_check_andThen (fun _ => ⟨.rfl w, rfl, (absurd · Bool.false_ne_true)⟩) fun _ => ?_
  refine (returns_startSession connection.session w).andThen ?_ ?_
  · rintro w' ⟨hsame, hcontext, -⟩
    exact ⟨hsame, hcontext, (absurd · Bool.false_ne_true)⟩
  · rintro w' ⟨hsame, hcontext, hestablished⟩
    exact returns_check fun b _ => ⟨hsame, hcontext, fun _ => hestablished rfl⟩

theorem returns_storeSpdm (w : World) :
    storeSpdm.Returns w (some true) fun _ w' =>
      SameFiles w w' ∧ w'.context.spdmContext = w.spdmContext ∧
        w'.context.sessionId = w.sessionId ∧ w'.process = w.process :=
  ⟨_, rfl, ⟨rfl, rfl, rfl⟩, rfl, rfl, rfl⟩

/-! ## Invariants -/

theorem preserves_of_sameFiles {step : Fallible World} {outcome : Option Bool}
    {P : World → Bool → World → Prop}
    (h : ∀ w, step.Returns w outcome fun b w' => SameFiles w w' ∧ P w b w') :
    Preserves Sound step := by
  intro w b w' hw hrun
  obtain ⟨-, hsame, -⟩ := (h w).eq_some hrun
  have hwf := World.WellFormed.of_sameFiles hw hsame
  cases b with
  | false => exact sound_false_of_true _ hwf
  | true => exact hwf

/-- The end of both set-ups: the connection, and checks that change nothing. -/
theorem returns_connect (connection : SpdmConnection) {last : Fallible World}
    {outcome : Option Bool} (hlast : ∀ w, last.Returns w outcome fun _ w' => w' = w) (w : World) :
    ((spdmConnect connection).andThen (storeSpdm.andThen last)).Returns w
      (both (all connection.checks) outcome) fun b w' =>
        w'.count = w.count ∧ (b = true →
          w'.context.spdmContext = w.spdmContext ∧
            w'.context.sessionId ∈ w'.process.sessions) := by
  refine (returns_spdmConnect connection w).andThen ?_ ?_
  · rintro w' ⟨hsame, -⟩
    exact ⟨hsame.count_eq, (absurd · Bool.false_ne_true)⟩
  · rintro connected ⟨hsame, hcontext, hestablished⟩
    rw [← both_true outcome]
    refine (returns_storeSpdm connected).andThen ?_ ?_
    · rintro w' ⟨hstored, -⟩
      exact ⟨hstored.count_eq.trans hsame.count_eq, (absurd · Bool.false_ne_true)⟩
    · rintro stored ⟨hstored, hkept, hid, hprocess⟩
      refine (hlast stored).mono ?_
      rintro _ _ rfl
      refine ⟨hstored.count_eq.trans hsame.count_eq, fun _ => ⟨hkept.trans hcontext, ?_⟩⟩
      rw [hid, hprocess]
      exact hestablished rfl

theorem preserves_connect (connection : SpdmConnection) {last : Fallible World}
    (hlast : Preserves Sound last) :
    Preserves Sound ((spdmConnect connection).andThen (storeSpdm.andThen last)) :=
  (preserves_of_sameFiles (returns_spdmConnect connection)).andThen <|
    (preserves_of_sameFiles returns_storeSpdm).andThen hlast

/-! ## Clean set-ups -/

/-- The set-up returns; when it fails the process is as it was, and when it succeeds there are an
SPDM context and an established session. -/
def SetsUpCleanly (setup : Fallible World) (w : World) : Prop :=
  ∃ b w', setup w = some (b, w') ∧ (b = false → w'.process = w.process) ∧
    (b = true → w'.context.spdmContext = true ∧ w'.context.sessionId ∈ w'.process.sessions)

theorem not_setsUpCleanly_of_leak {setup : Fallible World} {w : World}
    (h : ((setup w).any fun (b, w') => !b && w'.process != w.process) = true) :
    ¬SetsUpCleanly setup w := by
  intro ⟨b, w', hsetup, hfalse, _⟩
  rw [hsetup, Option.any_some, Bool.and_eq_true, Bool.not_eq_true', bne_iff_ne] at h
  exact h.2 (hfalse h.1)

/-- What a set-up leaves: nothing when one of the early checks fails; after these there is a
descriptor more. -/
structure Leaves (early : Option Bool) (hasContext : Bool) (w : World) (b : Bool) (w' : World) :
    Prop where
  restored : early ≠ some true → w'.process = w.process
  grown : early = some true → w.count < w'.count
  ready : b = true →
    w'.context.spdmContext = hasContext ∧ w'.context.sessionId ∈ w'.process.sessions

section Leaves

variable {early late : Option Bool} {hasContext : Bool} {w w' : World}

theorem Leaves.of_early (hearly : early = some false) (hrestored : w'.process = w.process) :
    Leaves early hasContext w false w' where
  restored _ := hrestored
  grown htrue := absurd (hearly.symm.trans htrue) nofun
  ready := nofun

theorem Leaves.of_late {b : Bool} (hearly : early = some true) (hgrown : w.count < w'.count)
    (hready : b = true →
      w'.context.spdmContext = hasContext ∧ w'.context.sessionId ∈ w'.process.sessions) :
    Leaves early hasContext w b w' where
  restored hne := absurd hearly hne
  grown _ := hgrown
  ready := hready

theorem setsUpCleanly_iff_of_returns {setup : Fallible World}
    (h : setup.Returns w (both early late) (Leaves early hasContext w)) :
    SetsUpCleanly setup w ↔
      early = some false ∨ early = some true ∧ late = some true ∧ hasContext = true := by
  constructor
  · rintro ⟨b, w', hrun, hfalse, htrue⟩
    obtain ⟨houtcome, hleaves⟩ := h.eq_some hrun
    match early, houtcome with
    | some false, _ => exact Or.inl rfl
    | some true, houtcome =>
        rw [both_true] at houtcome
        cases b with
        | false =>
            have hgrown := hleaves.grown rfl
            rw [World.count, World.count, hfalse rfl] at hgrown
            exact absurd hgrown (Nat.lt_irrefl _)
        | true =>
            exact Or.inr ⟨rfl, houtcome, (hleaves.ready rfl).1.symm.trans (htrue rfl).1⟩
  · rintro (rfl | ⟨rfl, rfl, rfl⟩)
    · obtain ⟨w', hrun, hleaves⟩ := h
      exact ⟨false, w', hrun, fun _ => hleaves.restored nofun, nofun⟩
    · obtain ⟨w', hrun, hleaves⟩ := h
      exact ⟨true, w', hrun, nofun, hleaves.ready⟩

/-- In terms of labelled checks, of which those at some points are the early ones. -/
theorem setsUpCleanly_iff_of_checks {setup : Fallible World} {first second : Checks}
    {points : List Point} (hfirst : ∀ c ∈ first, c.1 ∈ points)
    (hsecond : ∀ c ∈ second, c.1 ∉ points)
    (h : setup.Returns w (both (all first) (all second)) (Leaves (all first) hasContext w)) :
    SetsUpCleanly setup w ↔
      (∀ c ∈ first ++ second, c.2 = some true) ∧ hasContext = true ∨
        ∃ point ∈ points, failure (first ++ second) = some point := by
  rw [setsUpCleanly_iff_of_returns h, all_eq_false_iff_failure hfirst hsecond, ← all_eq_true_iff,
    all_append, both_eq_true_iff, and_assoc, or_comm]

end Leaves

end TeeIoValidator.GroupSetup
