import TeeIoValidator.Verification.PcieIde.Execution

/-! # The device's answers to the messages of a stream

Whether the keys of a stream are programmed and whether its key set is switched depends on the
answers alone. Also an attempt that fails leaves little behind: an invariant of the root port's
registers says what.
-/

namespace TeeIoValidator.PcieIde

/-! ## `KEY_PROG` -/

section Keys

variable (lib : PciIdeKmLib) (env : Environment) (stream : Stream) (ks : KeySet)
  (kSet : IdeKeySet) (direction : Direction)

/-- There is a key for the `i`-th message from now on, and the device takes it. -/
structure KeyAccepted (lib : PciIdeKmLib) (env : Environment) (s : State) (i : ℕ) :
    Prop where
  key : env.fixedKey = true ∨ (env.random (s.randoms + i)).isSome = true
  status : env.kpAckStatus (s.keyProgs.length + i) = some lib.kpAckStatusSuccess

theorem ideKmKeyProg_fst (substream : SubStream) (s : State) :
    (ideKmKeyProg lib env stream ks kSet direction substream s).1 = true ↔
      KeyAccepted lib env s 0 := by
  rw [ideKmKeyProg, generateKey]
  split
  · rename_i hkey
    split at hkey
    · cases hkey
    · rename_i hfixed
      simp only [libspdmGetRandomNumber, Prod.mk.injEq] at hkey
      simp only [Bool.false_eq_true, false_iff]
      rintro ⟨hfixed' | hrandom, -⟩
      · exact hfixed hfixed'
      · rw [Nat.add_zero, hkey.1] at hrandom
        cases hrandom
  · rename_i key s₁ hkey
    have havailable : env.fixedKey = true ∨ (env.random (s.randoms + 0)).isSome = true := by
      split at hkey
      · rename_i hfixed
        exact Or.inl hfixed
      · rw [libspdmGetRandomNumber, Prod.mk.injEq] at hkey
        exact Or.inr (by rw [Nat.add_zero, hkey.1]; rfl)
    have hprogs : s₁.keyProgs = s.keyProgs := by
      split at hkey
      · cases hkey
        rfl
      · rw [libspdmGetRandomNumber, Prod.mk.injEq] at hkey
        rw [← hkey.2]
    simp only [pciIdeKmKeyProg, hprogs]
    split
    · rename_i hstatus
      rw [Prod.mk.injEq] at hstatus
      simp only [Bool.false_eq_true, false_iff]
      intro h
      have hnone := h.status
      rw [Nat.add_zero, hstatus.1] at hnone
      cases hnone
    · rename_i status s₂ hstatus
      rw [Prod.mk.injEq] at hstatus
      split
      · rename_i hne
        simp only [Bool.false_eq_true, false_iff]
        intro h
        have hsome := h.status
        rw [Nat.add_zero, hstatus.1, Option.some.injEq] at hsome
        exact hne hsome
      · rename_i heq
        simp only [true_iff]
        exact ⟨havailable, by rw [Nat.add_zero, hstatus.1, not_not.mp heq]⟩

variable {lib env stream ks kSet direction} in
/-- The numbers of random keys and of messages after a key, up to the ones that are not used
with fixed keys. -/
theorem ideKmKeyProg_counts {substream : SubStream} {s s' : State}
    (h : ideKmKeyProg lib env stream ks kSet direction substream s = (true, s')) (i : ℕ) :
    KeyAccepted lib env s' i ↔ KeyAccepted lib env s (i + 1) := by
  have hprogs : s'.keyProgs.length = s.keyProgs.length + 1 := by
    rcases ideKmKeyProg_true h with ⟨key, hkey⟩
    rw [hkey.keyProgs, List.length_append, List.length_singleton]
  have hrandoms : env.fixedKey = true ∨ s'.randoms = s.randoms + 1 := by
    rw [ideKmKeyProg, generateKey] at h
    by_cases hfixed : env.fixedKey = true
    · exact Or.inl hfixed
    · rw [if_neg hfixed, libspdmGetRandomNumber] at h
      simp only [pciIdeKmKeyProg] at h
      split at h
      · cases h
      · rename_i key s₁ hkey
        rw [Prod.mk.injEq] at hkey
        split at h
        · cases h
        · rename_i status s₂ hstatus
          rw [Prod.mk.injEq] at hstatus
          split at h
          · cases h
          · cases h
            exact Or.inr (by rw [← hstatus.2, ← hkey.2])
  refine ⟨?_, ?_⟩
  · rintro ⟨hkey, hstatus⟩
    refine ⟨?_, ?_⟩
    · rcases hrandoms with hfixed | hrandoms
      · exact Or.inl hfixed
      · rwa [hrandoms, Nat.add_right_comm, Nat.add_assoc] at hkey
    · rwa [hprogs, Nat.add_right_comm, Nat.add_assoc] at hstatus
  · rintro ⟨hkey, hstatus⟩
    refine ⟨?_, ?_⟩
    · rcases hrandoms with hfixed | hrandoms
      · exact Or.inl hfixed
      · rwa [hrandoms, Nat.add_right_comm, Nat.add_assoc]
    · rwa [hprogs, Nat.add_right_comm, Nat.add_assoc]

theorem ideKmKeyProgs_fst (substreams : List SubStream) (s : State) :
    (ideKmKeyProgs lib env stream ks kSet direction substreams s).1 = true ↔
      ∀ i < substreams.length, KeyAccepted lib env s i := by
  induction substreams generalizing s with
  | nil => simp [ideKmKeyProgs]
  | cons substream substreams ih =>
      have hfirst := ideKmKeyProg_fst lib env stream ks kSet direction substream s
      rw [ideKmKeyProgs, List.length_cons, Nat.forall_lt_succ_left]
      split
      · rename_i s₁ hkey
        rw [hkey] at hfirst
        simp only [Bool.false_eq_true, false_iff] at hfirst ⊢
        exact fun hall => hfirst hall.1
      · rename_i s₁ hkey
        rw [hkey] at hfirst
        simp only [true_iff] at hfirst
        rw [ih]
        simp only [ideKmKeyProg_counts hkey, hfirst, true_and]

variable {lib env stream ks kSet direction} in
theorem ideKmKeyProgs_counts {substreams : List SubStream} {s s' : State}
    (h : ideKmKeyProgs lib env stream ks kSet direction substreams s = (true, s'))
    (i : ℕ) : KeyAccepted lib env s' i ↔ KeyAccepted lib env s (i + substreams.length) := by
  induction substreams generalizing s with
  | nil =>
      cases h
      rfl
  | cons substream substreams ih =>
      rw [ideKmKeyProgs] at h
      split at h
      · cases h
      · rename_i s₁ hkey
        rw [ih h, ideKmKeyProg_counts hkey, List.length_cons, Nat.add_assoc]

theorem programDirection_fst (s : State) :
    (programDirection lib env stream ks kSet direction s).1 = true ↔
      ∀ i < 3, KeyAccepted lib env s i := by
  have hkeys := ideKmKeyProgs_fst lib env stream ks kSet direction [.pr, .npr, .cpl] s
  rw [programDirection]
  split <;> rename_i heq <;> rw [heq] at hkeys <;> exact hkeys

variable {lib env stream ks kSet direction} in
theorem programDirection_counts {s s' : State}
    (h : programDirection lib env stream ks kSet direction s = (true, s')) (i : ℕ) :
    KeyAccepted lib env s' i ↔ KeyAccepted lib env s (i + 3) := by
  rw [programDirection] at h
  split at h
  · cases h
  · rename_i s₁ hkeys
    cases h
    have hcounts : KeyAccepted lib env s₁ i ↔ KeyAccepted lib env s (i + 3) :=
      ideKmKeyProgs_counts hkeys i
    rw [← hcounts]
    exact ⟨fun h => ⟨h.key, h.status⟩, fun h => ⟨h.key, h.status⟩⟩

/-- The device takes the six keys of a stream. -/
def KeysAccepted (lib : PciIdeKmLib) (env : Environment) (s : State) : Prop :=
  ∀ i < 6, KeyAccepted lib env s i

theorem programStream_fst (s : State) :
    (programStream lib env stream ks kSet s).1 = true ↔ KeysAccepted lib env s := by
  have hsplit : KeysAccepted lib env s ↔
      (∀ i < 3, KeyAccepted lib env s i) ∧ ∀ i < 3, KeyAccepted lib env s (i + 3) := by
    refine ⟨fun h => ⟨fun i hi => h i (by omega), fun i hi => h (i + 3) (by omega)⟩, ?_⟩
    rintro ⟨hlow, hhigh⟩ i hi
    by_cases hi' : i < 3
    · exact hlow i hi'
    · have hrest := hhigh (i - 3) (by omega)
      rwa [Nat.sub_add_cancel (by omega)] at hrest
  have hrx := programDirection_fst lib env stream ks kSet .rx s
  rw [programStream, hsplit]
  split
  · rename_i s₁ heq
    rw [heq] at hrx
    simp only [Bool.false_eq_true, false_iff] at hrx ⊢
    exact fun h => hrx h.1
  · rename_i s₁ heq
    rw [heq] at hrx
    rw [programDirection_fst, ← hrx]
    simp only [programDirection_counts heq, true_and]

end Keys

/-! ## `K_SET_GO` -/

/-- The acknowledgement that a `K_SET_GO` asks for. -/
def acknowledgement (lib : PciIdeKmLib) (request : KSetGo) : KGostopAck where
  size := lib.kGostopAckSize
  objectId := lib.objectIdKSetGostopAck
  streamId := request.streamId
  keySubStream := request.keySubStream
  portIndex := request.portIndex

/-- The requests from the `n`-th one on are all acknowledged. -/
def AllAcknowledged (lib : PciIdeKmLib) (env : Environment) : ℕ → List KSetGo → Prop
  | _, [] => True
  | n, request :: requests =>
    env.kGostopAck n = some (acknowledgement lib request) ∧
      AllAcknowledged lib env (n + 1) requests

def streamRequests (lib : PciIdeKmLib) (stream : Stream) (ks : KeySet) : List KSetGo :=
  streamKeys.map fun key => kSetGoMessage lib stream ks key.1 key.2

section Go

variable (lib : PciIdeKmLib) (env : Environment) (stream : Stream) (ks : KeySet)

variable {lib env} in
theorem allAcknowledged_append (n : ℕ) (requests requests' : List KSetGo) :
    AllAcknowledged lib env n (requests ++ requests') ↔
      AllAcknowledged lib env n requests ∧
        AllAcknowledged lib env (n + requests.length) requests' := by
  induction requests generalizing n with
  | nil => simp [AllAcknowledged]
  | cons request requests ih =>
      rw [List.cons_append, AllAcknowledged, AllAcknowledged, ih, List.length_cons,
        Nat.add_right_comm, Nat.add_assoc, and_assoc]

theorem ideKmKeySetGo_fst (request : KSetGo) (s : State) :
    (ideKmKeySetGo lib env request s).1 = true ↔
      env.kGostopAck s.kSetGos.length = some (acknowledgement lib request) := by
  rw [ideKmKeySetGo]
  cases env.kGostopAck s.kSetGos.length with
  | none => simp
  | some response =>
      rw [Option.some.injEq]
      refine ⟨?_, ?_⟩
      · intro h
        simp only at h
        repeat' split at h
        all_goals cases h
        rename_i hsize hobject hport hstream hsub
        rw [not_not] at hsize hobject hport hstream hsub
        cases response
        rw [acknowledgement, ← hsize, ← hobject, ← hport, ← hstream, ← hsub]
      · rintro rfl
        simp [acknowledgement]

theorem ideKmKeySetGos_fst (direction : Direction) (substreams : List SubStream) (s : State) :
    (ideKmKeySetGos lib env stream ks direction substreams s).1 = true ↔
      AllAcknowledged lib env s.kSetGos.length
        (substreams.map (kSetGoMessage lib stream ks direction)) := by
  induction substreams generalizing s with
  | nil => simp [ideKmKeySetGos, AllAcknowledged]
  | cons substream substreams ih =>
      have hfirst := ideKmKeySetGo_fst lib env
        (kSetGoMessage lib stream ks direction substream) s
      rw [ideKmKeySetGos, ← lib.keySets_eq, List.map_cons, AllAcknowledged, ← hfirst]
      rw [kSetGoMessage]
      split
      · rename_i heq
        rw [heq]
        simp
      · rename_i s₁ heq
        have hstate := ideKmKeySetGo_true heq
        rw [ih, heq, hstate, List.length_append, List.length_singleton]
        simp

theorem goStream_fst (s : State) :
    (goStream lib env stream ks s).1 = true ↔
      AllAcknowledged lib env s.kSetGos.length (streamRequests lib stream ks) := by
  have hrx := ideKmKeySetGos_fst lib env stream ks .rx [.pr, .npr, .cpl] s
  have hrequests : streamRequests lib stream ks =
      [SubStream.pr, .npr, .cpl].map (kSetGoMessage lib stream ks .rx) ++
        [SubStream.pr, .npr, .cpl].map (kSetGoMessage lib stream ks .tx) := rfl
  rw [goStream, hrequests, allAcknowledged_append, ← hrx]
  split
  · rename_i heq
    rw [heq]
    simp
  · rename_i s₁ heq
    have hstate := ideKmKeySetGos_true heq
    rw [heq, ideKmKeySetGos_fst, hstate, List.length_append]
    simp

theorem ideKmKeySetGo_snd (request : KSetGo) (s : State) :
    (ideKmKeySetGo lib env request s).2 = { s with kSetGos := s.kSetGos ++ [request] } := by
  rw [ideKmKeySetGo]
  split
  · rfl
  · repeat' split
    all_goals rfl

theorem ideKmKeySetGos_kcbar (direction : Direction) (substreams : List SubStream) (s : State) :
    (ideKmKeySetGos lib env stream ks direction substreams s).2.kcbar = s.kcbar := by
  induction substreams generalizing s with
  | nil => rfl
  | cons substream substreams ih =>
      rw [ideKmKeySetGos]
      have hfirst := congrArg State.kcbar (ideKmKeySetGo_snd lib env
        { streamId := stream.streamId
          keySubStream := ks.number ||| lib.directions direction ||| lib.subStreams substream
          portIndex := stream.portIndex } s)
      split
      · rename_i heq
        rw [heq] at hfirst
        exact hfirst
      · rename_i heq
        rw [heq] at hfirst
        rw [ih]
        exact hfirst

end Go

/-! ## Invariants of the root port -/

section Invariant

variable (lib : PciIdeKmLib) (env : Environment) {stream : Stream} (ks : KeySet)
  (kSet : IdeKeySet) {P : Registers → Prop}

/-- A property of the registers that the keys of a stream do not change. -/
structure StreamInvariant (stream : Stream) (P : Registers → Prop) : Prop where
  key : ∀ ks kSet direction substream key kcbar, P kcbar →
    P (keyProgKcbar kcbar stream ks kSet direction substream key)
  prime : ∀ ks direction kcbar, P kcbar →
    P (primeRpIdeKeySet kcbar stream.rpStreamIndex direction ks)
  select : ∀ ks kcbar, P kcbar → P (setRpIdeKeySetSelect kcbar stream.rpStreamIndex ks)

/-- What an attempt to program keys leaves behind, for an invariant of the registers. -/
structure Attempted (P : Registers → Prop) (s s' : State) : Prop where
  kcbar : P s.kcbar → P s'.kcbar
  kSetGos : s'.kSetGos = s.kSetGos

theorem Attempted.trans {s s' s'' : State} (h : Attempted P s s') (h' : Attempted P s' s'') :
    Attempted P s s'' :=
  ⟨h'.kcbar ∘ h.kcbar, h'.kSetGos.trans h.kSetGos⟩

variable (hP : StreamInvariant stream P)

include hP

theorem ideKmKeyProg_attempted (direction : Direction) (substream : SubStream) (s : State) :
    Attempted P s (ideKmKeyProg lib env stream ks kSet direction substream s).2 := by
  rcases generateKey_state env direction s with ⟨randoms, hstate⟩
  rw [ideKmKeyProg]
  split
  · rename_i s₁ heq
    rw [heq] at hstate
    subst hstate
    exact ⟨id, rfl⟩
  · rename_i key s₁ heq
    rw [heq] at hstate
    subst hstate
    simp only [pciIdeKmKeyProg]
    split
    · rename_i hack
      rw [Prod.mk.injEq] at hack
      rcases hack with ⟨-, rfl⟩
      exact ⟨id, rfl⟩
    · rename_i hack
      rw [Prod.mk.injEq] at hack
      rcases hack with ⟨-, rfl⟩
      split
      · exact ⟨id, rfl⟩
      · exact ⟨hP.key ks kSet direction substream key s.kcbar, rfl⟩

theorem ideKmKeyProgs_attempted (direction : Direction) (substreams : List SubStream)
    (s : State) :
    Attempted P s (ideKmKeyProgs lib env stream ks kSet direction substreams s).2 := by
  induction substreams generalizing s with
  | nil => exact ⟨id, rfl⟩
  | cons substream substreams ih =>
      have hfirst := ideKmKeyProg_attempted lib env ks kSet hP
        direction substream s
      rw [ideKmKeyProgs]
      split <;> rename_i heq <;> rw [heq] at hfirst
      · exact hfirst
      · exact hfirst.trans (ih _)

theorem programStream_attempted (s : State) :
    Attempted P s (programStream lib env stream ks kSet s).2 := by
  have hdirection : ∀ direction s,
      Attempted P s (programDirection lib env stream ks kSet direction s).2 := by
    intro direction s
    have hkeys := ideKmKeyProgs_attempted lib env ks kSet hP
      direction [.pr, .npr, .cpl] s
    rw [programDirection]
    split <;> rename_i heq <;> rw [heq] at hkeys
    · exact hkeys
    · exact hkeys.trans ⟨hP.prime ks direction _, rfl⟩
  have hrx := hdirection .rx s
  rw [programStream]
  split <;> rename_i heq <;> rw [heq] at hrx
  · exact hrx
  · exact hrx.trans (hdirection .tx _)

theorem goStream_kcbar {s : State} (h : P s.kcbar) : P (goStream lib env stream ks s).2.kcbar := by
  have hrx := ideKmKeySetGos_kcbar lib env stream ks .rx
    [.pr, .npr, .cpl] s
  rw [goStream]
  split <;> rename_i heq <;> rw [heq] at hrx
  · rwa [hrx]
  · rw [ideKmKeySetGos_kcbar, hrx]
    exact hP.select ks _ h

end Invariant

end TeeIoValidator.PcieIde
