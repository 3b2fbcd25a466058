import TeeIoValidator.Verification.PcieIde.Execution
import TeeIoValidator.Verification.PcieIde.Allocation

/-! # The keys of a PCIe IDE stream on its two sides

After a setup or a key refresh, the slots that the root port's key set registers name hold
the keys and IVs that the device got last, each side in its own byte order, and both sides
use the same key set.
-/

namespace TeeIoValidator.PcieIde

/-! ## The documented byte order -/

/-- The bytes of a double word, the top one first. -/
def bytesFromTop (dw : Dword) : List (BitVec 8) := [dw.byte 3, dw.byte 2, dw.byte 1, dw.byte 0]

/-- The AES-GCM key of a `KEY_PROG` message: `Key_DW7` comes first. -/
def keyProgKeyBytes (key : Key) : List (BitVec 8) := key.toList.flatMap bytesFromTop

/-- Bytes 4 to 11 of the AES-GCM IV of a `KEY_PROG` message: `IFV_DW1` comes first. -/
def keyProgIvBytes (iv : Iv) : List (BitVec 8) := iv.toList.flatMap bytesFromTop

/-- The AES-GCM key of a key slot, from `Key_Slot_DW7` on. -/
def keySlotBytes (kcbar : Registers) (slotAddress : ℕ) : List (BitVec 8) :=
  (Block.read kcbar slotAddress 8).reverse.flatMap bytesFromTop

/-- Bytes 4 to 11 of the AES-GCM IV of an IV slot, from `IFV_DW1` on. -/
def ivSlotBytes (kcbar : Registers) (slotAddress : ℕ) : List (BitVec 8) :=
  (Block.read kcbar slotAddress 2).reverse.flatMap bytesFromTop

/-! ## What the two sides have to agree on -/

/-- The last `KEY_PROG` of a stream for a key set, a direction and a sub-stream. -/
def lastKeyProg (lib : PciIdeKmLib) (stream : Stream) (ks : KeySet) (direction : Direction)
    (substream : SubStream) (keyProgs : List KeyProg) : Option KeyProg :=
  (keyProgs.filter fun message =>
    message.streamId = stream.streamId ∧ message.portIndex = stream.portIndex ∧
      message.keySubStream =
        lib.keySets ks ||| lib.directions direction ||| lib.subStreams substream).getLast?

/-- A key slot and an IV slot hold the key and the IV of a message. -/
structure SameKey (kcbar : Registers) (keyAddress ivAddress : ℕ) (message : KeyProg) : Prop where
  key : keySlotBytes kcbar keyAddress = keyProgKeyBytes message.key
  iv : ivSlotBytes kcbar ivAddress = keyProgIvBytes message.iv

/-- The root port's sending keys are the device's receiving ones and the other way round, in
the key set that the root port selects. -/
structure KeysAgree (lib : PciIdeKmLib) (stream : Stream) (ks : KeySet) (s : State) : Prop where
  sending : ∀ substream, ∃ message,
    lastKeyProg lib stream ks .rx substream s.keyProgs = some message ∧
    let slot := (slotIdField substream).get (s.kcbar (txKeySet stream.rpStreamIndex ks))
    SameKey s.kcbar (txKeySlot (s.kcbar capabilities) slot) (txIvSlot (s.kcbar capabilities) slot)
      message
  receiving : ∀ substream, ∃ message,
    lastKeyProg lib stream ks .tx substream s.keyProgs = some message ∧
    let slot := (slotIdField substream).get (s.kcbar (rxKeySet stream.rpStreamIndex ks))
    SameKey s.kcbar (rxKeySlot (s.kcbar capabilities) slot) (rxIvSlot (s.kcbar capabilities) slot)
      message
  selected : keySetSelect.get (s.kcbar (txrxControl stream.rpStreamIndex .rx)) = ks.select

/-- The new `K_SET_GO` messages, all for one key set. -/
def KeySetGone (lib : PciIdeKmLib) (stream : Stream) (ks : KeySet) (s s' : State) : Prop :=
  s'.kSetGos = s.kSetGos ++ streamKeys.map fun key => kSetGoMessage lib stream ks key.1 key.2

/-! ## Slots that can hold the keys -/

/-- Different existing slots for the three sub-streams of a direction. -/
structure SlotsUsable (cap : Dword) (kSet : IdeKeySet) : Prop where
  exist : ∀ direction substream, SlotExists cap direction (slotId kSet direction substream).toNat
  distinct : ∀ direction substream substream',
    slotId kSet direction substream = slotId kSet direction substream' → substream = substream'

theorem slotsUsable_of_found {kcbar : Registers} {kSet : IdeKeySet}
    (h : pcieIdeAllocSlotIds kcbar = .found kSet)
    (hrx : ∀ substream, SlotExists (kcbar capabilities) .tx (slotId kSet .tx substream).toNat) :
    SlotsUsable (kcbar capabilities) kSet := by
  rcases pcieIdeAllocSlotIds_found h with ⟨g, rfl, hfree⟩
  have hslot := slotGroup_toNat hfree.lt
  refine ⟨?_, ?_⟩
  · intro direction substream
    cases direction with
    | tx => exact hrx substream
    | rx =>
        have htx := hfree.tx
        have hlt := substream.index_lt
        rw [SlotExists, slotId, hslot, lastSlot]
        omega
  · intro direction substream substream' heq
    have hnat := congrArg BitVec.toNat heq
    rw [slotId, slotId, hslot, hslot] at hnat
    exact SubStream.index_inj (Nat.add_left_cancel hnat)

/-! ## The invariant of the keys programmed so far -/

section Programming

variable (lib : PciIdeKmLib) (stream : Stream) (ks : KeySet) (kSet : IdeKeySet)

/-- A key is in its slot on the root port, and is the last one that the device got. -/
structure KeyInPlace (direction : Direction) (substream : SubStream) (s : State) : Prop where
  named : namedSlot s.kcbar stream.rpStreamIndex direction ks substream =
    (slotId kSet direction substream).toNat
  holds : ∃ key,
    lastKeyProg lib stream ks direction substream s.keyProgs =
      some (keyProgMessage lib stream ks direction substream key) ∧
    SlotHolds s.kcbar direction (slotId kSet direction substream).toNat (pcieConstructRpKeys key)
      [pcieIdeIvInitValue, 0]

variable {lib stream ks kSet} {direction direction' : Direction} {substream substream' : SubStream}
  {key : Key} {s s' : State}

theorem lastKeyProg_self (keyProgs : List KeyProg) :
    lastKeyProg lib stream ks direction substream
      (keyProgs ++ [keyProgMessage lib stream ks direction substream key]) =
      some (keyProgMessage lib stream ks direction substream key) := by
  rw [lastKeyProg, List.filter_append, List.filter_singleton]
  simp [keyProgMessage]

/-- A message for another direction or sub-stream is passed over. -/
theorem lastKeyProg_of_ne (keyProgs : List KeyProg)
    (h : (direction', substream') ≠ (direction, substream)) :
    lastKeyProg lib stream ks direction' substream'
      (keyProgs ++ [keyProgMessage lib stream ks direction substream key]) =
      lastKeyProg lib stream ks direction' substream' keyProgs := by
  have hcomposed : lib.keySets ks ||| lib.directions direction ||| lib.subStreams substream ≠
      lib.keySets ks ||| lib.directions direction' ||| lib.subStreams substream' := by
    intro heq
    rcases lib.composed_injective _ _ _ _ _ _ heq with ⟨_, rfl, rfl⟩
    exact h rfl
  rw [lastKeyProg, lastKeyProg, List.filter_append, List.filter_singleton]
  simp [keyProgMessage, hcomposed]

theorem pcieConstructRpKeys_length (key : Key) : (pcieConstructRpKeys key).length = 8 := by
  simp [pcieConstructRpKeys]

theorem KeyProgrammed.inPlace (h : KeyProgrammed lib stream ks kSet direction substream key s s')
    (hstream : StreamExists (s.kcbar capabilities) stream.rpStreamIndex)
    (hslots : SlotsUsable (s.kcbar capabilities) kSet) :
    KeyInPlace lib stream ks kSet direction substream s' := by
  refine ⟨?_, key, ?_, ?_⟩
  · rw [h.kcbar]
    exact cfgRootportIdeKeys_namedSlot_self _
  · rw [h.keyProgs]
    exact lastKeyProg_self _
  · rw [h.kcbar]
    exact cfgRootportIdeKeys_slotHolds_self _ hstream (pcieConstructRpKeys_length key) rfl
      (hslots.exist direction substream)

/-- The other keys stay in place. -/
theorem KeyInPlace.keyProgrammed (hplace : KeyInPlace lib stream ks kSet direction' substream' s)
    (h : KeyProgrammed lib stream ks kSet direction substream key s s')
    (hstream : StreamExists (s.kcbar capabilities) stream.rpStreamIndex)
    (hslots : SlotsUsable (s.kcbar capabilities) kSet)
    (hne : (direction', substream') ≠ (direction, substream)) :
    KeyInPlace lib stream ks kSet direction' substream' s' := by
  rcases hplace.holds with ⟨key', hlast, hholds⟩
  refine ⟨?_, key', ?_, ?_⟩
  · rw [h.kcbar, ← hplace.named]
    apply cfgRootportIdeKeys_namedSlot_of_ne _ hstream
    rintro ⟨_, rfl, _, rfl⟩
    exact hne rfl
  · rw [h.keyProgs, lastKeyProg_of_ne _ hne]
    exact hlast
  · rw [h.kcbar]
    apply hholds.cfgRootportIdeKeys _ hstream (pcieConstructRpKeys_length key) rfl _
      (hslots.exist _ _) (hslots.exist _ _)
    rintro rfl heq
    have hsub := hslots.distinct _ _ _ (BitVec.eq_of_toNat_eq heq)
    exact hne (congrArg _ hsub)

/-- A write to a register of the streams, other than a key set register. -/
theorem KeyInPlace.of_kcbar (hplace : KeyInPlace lib stream ks kSet direction substream s)
    (hkeyProgs : s'.keyProgs = s.keyProgs)
    (hnamed : namedSlot s'.kcbar stream.rpStreamIndex direction ks substream =
      namedSlot s.kcbar stream.rpStreamIndex direction ks substream)
    (hholds : ∀ {slot key iv}, SlotHolds s.kcbar direction slot key iv →
      SlotHolds s'.kcbar direction slot key iv) :
    KeyInPlace lib stream ks kSet direction substream s' := by
  rcases hplace.holds with ⟨key, hlast, hslot⟩
  exact ⟨hnamed.trans hplace.named, key, hkeyProgs ▸ hlast, hholds hslot⟩

/-- The invariant: what the capabilities are, and that the keys done so far are in place. -/
structure KeysInPlace (lib : PciIdeKmLib) (stream : Stream) (ks : KeySet) (kSet : IdeKeySet)
    (cap : Dword) (kSetGos : List KSetGo) (done : List (Direction × SubStream)) (s : State) :
    Prop where
  cap : s.kcbar capabilities = cap
  kSetGos : s.kSetGos = kSetGos
  inPlace : ∀ key ∈ done, KeyInPlace lib stream ks kSet key.1 key.2 s

theorem programStream_keysInPlace {env : Environment}
    (hstream : StreamExists (s.kcbar capabilities) stream.rpStreamIndex)
    (hslots : SlotsUsable (s.kcbar capabilities) kSet)
    (h : programStream lib env stream ks kSet s = (true, s')) :
    KeysInPlace lib stream ks kSet (s.kcbar capabilities) s.kSetGos streamKeys s' := by
  apply programStream_induction
    (P := KeysInPlace lib stream ks kSet (s.kcbar capabilities) s.kSetGos) ?_ ?_ ?_ h
  · intro done direction substream s₁ s₂ hnew hinv hprog
    rcases ideKmKeyProg_true hprog with ⟨key, hkey⟩
    rw [← hinv.cap] at hstream hslots
    refine ⟨?_, hkey.kSetGos.trans hinv.kSetGos, ?_⟩
    · rw [hkey.kcbar, ← hinv.cap]
      exact cfgRootportIdeKeys_capabilities _
    · intro other hmem
      rcases List.mem_append.mp hmem with hdone | hlast
      · apply (hinv.inPlace other hdone).keyProgrammed hkey hstream hslots
        intro heq
        exact hnew (heq ▸ hdone)
      · rw [List.mem_singleton.mp hlast]
        exact hkey.inPlace hstream hslots
  · intro done direction s₁ hinv
    rw [← hinv.cap] at hstream
    refine ⟨?_, hinv.kSetGos, ?_⟩
    · rw [← hinv.cap]
      exact primeRpIdeKeySet_capabilities _
    · intro key hmem
      refine (hinv.inPlace key hmem).of_kcbar ?_ (primeRpIdeKeySet_namedSlot _) ?_
      · rfl
      intro slot keyVal iv hslot
      exact hslot.mmioWriteReg32 capabilities_ne_txrxControl (txrxControl_lt hstream) _
  · exact ⟨rfl, rfl, fun _ hmem => absurd hmem List.not_mem_nil⟩

end Programming

/-! ## From the keys in place to the agreement -/

theorem SlotHolds.sameKey {kcbar : Registers} {direction : Direction} {slot : ℕ} {key : Key}
    {lib : PciIdeKmLib} {stream : Stream} {ks : KeySet} {substream : SubStream}
    (h : SlotHolds kcbar direction slot (pcieConstructRpKeys key) [pcieIdeIvInitValue, 0]) :
    SameKey kcbar (keySlot (kcbar capabilities) direction slot)
      (ivSlot (kcbar capabilities) direction slot)
      (keyProgMessage lib stream ks direction substream key) := by
  refine ⟨?_, ?_⟩
  · rw [keySlotBytes, h.key, pcieConstructRpKeys, List.reverse_reverse]
    rfl
  · rw [ivSlotBytes, h.iv]
    rfl

theorem keysAgree_of_inPlace {lib : PciIdeKmLib} {stream : Stream} {ks : KeySet}
    (kSet : IdeKeySet) {s : State}
    (h : ∀ direction substream, KeyInPlace lib stream ks kSet direction substream s)
    (hselected : keySetSelect.get (s.kcbar (txrxControl stream.rpStreamIndex .rx)) = ks.select) :
    KeysAgree lib stream ks s := by
  have hsame : ∀ direction substream, ∃ message,
      lastKeyProg lib stream ks direction substream s.keyProgs = some message ∧
      SameKey s.kcbar
        (keySlot (s.kcbar capabilities) direction
          (namedSlot s.kcbar stream.rpStreamIndex direction ks substream))
        (ivSlot (s.kcbar capabilities) direction
          (namedSlot s.kcbar stream.rpStreamIndex direction ks substream)) message := by
    intro direction substream
    have hplace := h direction substream
    rcases hplace.holds with ⟨key, hlast, hslot⟩
    rw [hplace.named]
    exact ⟨_, hlast, hslot.sameKey⟩
  exact ⟨hsame .rx, hsame .tx, hselected⟩

section Go

variable {lib : PciIdeKmLib} {env : Environment} {stream : Stream} {ks : KeySet}
  {kSet : IdeKeySet} {s s₁ s₂ s' : State}

/-- `K_SET_GO` on both sides after the keys are in place. -/
theorem goStream_keysAgree (hstream : StreamExists (s.kcbar capabilities) stream.rpStreamIndex)
    (hslots : SlotsUsable (s.kcbar capabilities) kSet)
    (hprogram : programStream lib env stream ks kSet s = (true, s₁))
    (hgo : goStream lib env stream ks s₁ = (true, s₂)) :
    (∀ direction substream, KeyInPlace lib stream ks kSet direction substream s₂) ∧
      KeysAgree lib stream ks s₂ ∧ KeySetGone lib stream ks s s₂ := by
  have hinv := programStream_keysInPlace hstream hslots hprogram
  rw [← hinv.cap] at hstream
  have hstate := goStream_true hgo
  subst hstate
  have hplace : ∀ direction substream, KeyInPlace lib stream ks kSet direction substream
      { s₁ with
        kcbar := setRpIdeKeySetSelect s₁.kcbar stream.rpStreamIndex ks
        kSetGos := s₁.kSetGos ++
          streamKeys.map fun key => kSetGoMessage lib stream ks key.1 key.2 } := by
    intro direction substream
    have hbefore := hinv.inPlace _ (mem_streamKeys direction substream)
    refine hbefore.of_kcbar ?_ (setRpIdeKeySetSelect_namedSlot _) ?_
    · rfl
    intro slot keyVal iv hslot
    exact hslot.mmioWriteReg32 capabilities_ne_txrxControl (txrxControl_lt hstream) _
  refine ⟨hplace, keysAgree_of_inPlace kSet hplace (setRpIdeKeySetSelect_keySetSelect _), ?_⟩
  rw [KeySetGone, ← hinv.kSetGos]

/-- Enabling the stream changes none of it. -/
theorem enableIdeStream_keysAgree
    (hstream : StreamExists (s₂.kcbar capabilities) stream.rpStreamIndex)
    (hplace : ∀ direction substream, KeyInPlace lib stream ks kSet direction substream s₂)
    (hagree : KeysAgree lib stream ks s₂) :
    KeysAgree lib stream ks
      { s₂ with kcbar := enableIdeStreamInKcbar s₂.kcbar stream.rpStreamIndex true } := by
  refine keysAgree_of_inPlace kSet (fun direction substream => ?_) ?_
  · refine (hplace direction substream).of_kcbar ?_ (enableIdeStreamInKcbar_namedSlot _) ?_
    · rfl
    intro slot keyVal iv hslot
    exact hslot.mmioWriteReg32 capabilities_ne_streamControl (streamControl_lt hstream) _
  · have hselected := hagree.selected
    rwa [← @enableIdeStreamInKcbar_apply_txrxControl s₂.kcbar stream.rpStreamIndex] at hselected

theorem programStream_capabilities
    (h : programStream lib env stream ks kSet s = (true, s')) :
    s'.kcbar capabilities = s.kcbar capabilities := by
  apply programStream_induction (P := fun _ s' => s'.kcbar capabilities = s.kcbar capabilities)
    ?_ ?_ rfl h
  · intro done direction substream s₁ s₂ _ hcap hprog
    rcases ideKmKeyProg_true hprog with ⟨key, hkey⟩
    rw [hkey.kcbar, ← hcap]
    exact cfgRootportIdeKeys_capabilities _
  · intro done direction s₁ hcap
    exact (primeRpIdeKeySet_capabilities _).trans hcap

theorem goStream_capabilities (h : goStream lib env stream ks s = (true, s')) :
    s'.kcbar capabilities = s.kcbar capabilities := by
  rw [congrArg State.kcbar (goStream_true h)]
  exact @setRpIdeKeySetSelect_capabilities s.kcbar stream.rpStreamIndex ks

/-- With slots that exist and are distinct, both sides agree after a setup or a key refresh. -/
theorem keysAgree_after (lib : PciIdeKmLib) (env : Environment) (stream : Stream) (ks : KeySet)
    (kSet : IdeKeySet) (topType : TopologyType) (ports : Ports) (s s' : State) :
    (StreamExists (s.kcbar capabilities) stream.rpStreamIndex →
      SlotsUsable (s.kcbar capabilities) kSet →
      setupIdeStream lib env stream ks kSet topType ports false s = some (true, s') →
      KeysAgree lib stream ks s' ∧ KeySetGone lib stream ks s s') ∧
    ∀ (retries : List Retry) (kSet' : IdeKeySet),
      StreamExists (s'.kcbar capabilities) stream.rpStreamIndex →
      (∀ substream, SlotExists (s'.kcbar capabilities) .tx (slotId kSet' .tx substream).toNat) →
      ideKeySwitchTo lib env stream kSet topType ports retries ks false s =
        some (true, kSet', s') →
      KeysAgree lib stream ks s' ∧ KeySetGone lib stream ks s s' := by
  refine ⟨?_, ?_⟩
  · intro hstream hslots hsetup
    rcases setupIdeStream_true hsetup with ⟨s₁, hprogram, hstart⟩
    rcases startIdeStream_true hstart with ⟨s₂, hgo, rfl⟩
    rcases goStream_keysAgree hstream hslots hprogram hgo with ⟨hplace, hagree, hgone⟩
    rw [← programStream_capabilities hprogram, ← goStream_capabilities hgo] at hstream
    exact ⟨enableIdeStream_keysAgree hstream hplace hagree, hgone⟩
  · intro retries kSet' hstream hexist hswitch
    rcases ideKeySwitchTo_true hswitch with ⟨s₁, s₂, hwait, hprogram, hgo⟩
    rw [goStream_capabilities hgo, programStream_capabilities hprogram] at hstream hexist
    have hslots := slotsUsable_of_found (waitForSlots_some hwait) hexist
    rcases goStream_keysAgree hstream hslots hprogram hgo with ⟨_, hagree, hgone⟩
    rcases waitForSlots_state hwait with ⟨kcbar, rfl⟩
    exact ⟨hagree, hgone⟩

end Go

/-! ## A small root port -/

/-- The library's constants. -/
def pciIdeKm : PciIdeKmLib where
  keySets := KeySet.number
  directions
    | .rx => 0x00
    | .tx => 0x02
  subStreams
    | .pr => 0x00
    | .npr => 0x10
    | .cpl => 0x20
  kpAckStatusSuccess := 0
  objectIdKSetGostopAck := 6
  kGostopAckSize := 7
  keySets_eq := fun _ => rfl
  composed_injective := by
    intro ks direction subStream ks' direction' subStream' h
    cases ks <;> cases direction <;> cases subStream <;> cases ks' <;> cases direction' <;>
      cases subStream' <;> first | exact ⟨rfl, rfl, rfl⟩ | cases h

def smallStream : Stream := ⟨1, 0, 0⟩

/-- A device that accepts every key and acknowledges each `K_SET_GO`, with the key set of each
round of six. -/
def acceptingDevice (ks : ℕ → KeySet) : Environment where
  fixedKey := false
  random n := some (Vector.ofFn fun i => BitVec.ofNat 32 (8 * n + i))
  kpAckStatus _ := some 0
  kGostopAck n := (streamKeys[n % 6]?).map fun key =>
    let request := kSetGoMessage pciIdeKm smallStream (ks (n / 6)) key.1 key.2
    ⟨7, 6, request.streamId, request.keySubStream, request.portIndex⟩

def readyPorts : Ports := ⟨false, true, true, true, true⟩

/-- A root port with one stream and the given numbers of slots, before anything is done. -/
def initialState (numTx numRx : ℕ) : State where
  kcbar := Function.update (fun _ => 0) capabilities
    (numRxKeySlots.set (numTxKeySlots.set 0 (numTx - 1)) (numRx - 1))
  randoms := 0
  keyProgs := []
  kSetGos := []
  keyWrites := []

/-- The setup of the small stream. -/
def smallSetup (kSet : IdeKeySet) (s : State) : Option (Bool × State) :=
  setupIdeStream pciIdeKm (acceptingDevice fun _ => .ks0) smallStream .ks0 kSet .selIde readyPorts
    false s

theorem keysAgree_after_small :
    (∃ s', smallSetup (slotGroup 0) (initialState 3 3) = some (true, s') ∧
      KeysAgree pciIdeKm smallStream .ks0 s' ∧
      KeySetGone pciIdeKm smallStream .ks0 (initialState 3 3) s') ∧
    ∃ s', ideKeySwitchTo pciIdeKm (acceptingDevice fun _ => .ks1) smallStream (slotGroup 1) .selIde
        readyPorts [] .ks1 false (initialState 3 3) = some (true, slotGroup 0, s') ∧
      KeysAgree pciIdeKm smallStream .ks1 s' ∧
      KeySetGone pciIdeKm smallStream .ks1 (initialState 3 3) s' := by
  refine ⟨?_, ?_⟩
  · rcases (⟨_, rfl⟩ : ∃ s', smallSetup (slotGroup 0) (initialState 3 3) = some (true, s'))
      with ⟨s', hrun⟩
    refine ⟨s', hrun, (keysAgree_after _ _ _ _ _ _ _ _ _).1 (by decide) ⟨?_, ?_⟩ hrun⟩
    · intro direction substream
      cases direction <;> cases substream <;> decide
    · intro direction substream substream' h
      cases direction <;> cases substream <;> cases substream' <;> first | rfl | cases h
  · rcases (⟨_, rfl, rfl⟩ : ∃ s', ideKeySwitchTo pciIdeKm (acceptingDevice fun _ => .ks1)
        smallStream (slotGroup 1) .selIde readyPorts [] .ks1 false (initialState 3 3) =
          some (true, slotGroup 0, s') ∧
        s'.kcbar capabilities = (initialState 3 3).kcbar capabilities) with ⟨s', hrun, hcap⟩
    refine ⟨s', hrun, (keysAgree_after _ _ _ _ _ _ _ _ _).2 _ _ ?_ ?_ hrun⟩
    · rw [hcap]
      decide
    · intro substream
      rw [hcap]
      cases substream <;> decide

/-! With one slot for all sub-streams, or with slots that the root port has in one direction
only, a slot does not hold the key that was sent. -/

theorem KeysAgree.sendingKey {lib : PciIdeKmLib} {stream : Stream} {ks : KeySet} {s : State}
    (h : KeysAgree lib stream ks s) (substream : SubStream) :
    (lastKeyProg lib stream ks .rx substream s.keyProgs).map (fun m => keyProgKeyBytes m.key) =
      some (keySlotBytes s.kcbar (txKeySlot (s.kcbar capabilities)
        ((slotIdField substream).get (s.kcbar (txKeySet stream.rpStreamIndex ks))))) := by
  rcases h.sending substream with ⟨message, hlast, hsame⟩
  rw [hlast, hsame.key, Option.map_some]

theorem KeysAgree.receivingKey {lib : PciIdeKmLib} {stream : Stream} {ks : KeySet} {s : State}
    (h : KeysAgree lib stream ks s) (substream : SubStream) :
    (lastKeyProg lib stream ks .tx substream s.keyProgs).map (fun m => keyProgKeyBytes m.key) =
      some (keySlotBytes s.kcbar (rxKeySlot (s.kcbar capabilities)
        ((slotIdField substream).get (s.kcbar (rxKeySet stream.rpStreamIndex ks))))) := by
  rcases h.receiving substream with ⟨message, hlast, hsame⟩
  rw [hlast, hsame.key, Option.map_some]

theorem not_keysAgree_unusableSlots :
    (∃ s', smallSetup (fun _ _ => 0) (initialState 3 3) = some (true, s') ∧
      ¬KeysAgree pciIdeKm smallStream .ks0 s') ∧
    ∃ s', smallSetup (slotGroup 1) (initialState 6 3) = some (true, s') ∧
      ¬KeysAgree pciIdeKm smallStream .ks0 s' := by
  refine ⟨⟨_, rfl, ?_⟩, _, rfl, ?_⟩
  · intro h
    exact absurd (h.sendingKey .pr) (by decide +kernel)
  · intro h
    exact absurd (h.receivingKey .pr) (by decide +kernel)

end TeeIoValidator.PcieIde
