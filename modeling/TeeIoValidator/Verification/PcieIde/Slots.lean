import Mathlib.Logic.Relation
import TeeIoValidator.Verification.PcieIde.Keys

/-! # Key slots in use are never overwritten

Enabled streams own groups of three slots. The allocation finds a group that nobody owns, and
the key writes that follow stay in it, so no slot that an enabled stream's selected key set
names is written, over any run of openings and key refreshes. The allocation looks at the
number of sending slots only: the contents of the slots are kept where the root port has as
many receiving slots as can be allocated.
-/

namespace TeeIoValidator.PcieIde

/-! ## Slots in use -/

/-- A slot that the selected key set of an enabled stream names. -/
structure InUse (kcbar : Registers) (i : ℕ) (direction : Direction) (slot : ℕ) : Prop where
  stream : StreamExists (kcbar capabilities) i
  enabled : Enabled kcbar i
  named : ∃ ks, selectedKeySet kcbar i = some ks ∧
    ∃ subStream, namedSlot kcbar i direction ks subStream = slot

/-- The selected key set names the slots of a group, in both directions. -/
def OwnsGroup (kcbar : Registers) (i g : ℕ) : Prop :=
  ∃ ks, selectedKeySet kcbar i = some ks ∧
    ∀ direction subStream, namedSlot kcbar i direction ks subStream = 3 * g + subStream.index

/-- The invariant of the root port between openings and refreshes. -/
structure Exclusive (kcbar : Registers) : Prop where
  grouped : ∀ i, StreamExists (kcbar capabilities) i → Enabled kcbar i →
    ∃ g ≤ lastGroup (kcbar capabilities), OwnsGroup kcbar i g
  unshared : ∀ {i j g}, StreamExists (kcbar capabilities) i → Enabled kcbar i →
    StreamExists (kcbar capabilities) j → Enabled kcbar j → OwnsGroup kcbar i g →
    OwnsGroup kcbar j g → i = j

section Groups

variable {kcbar kcbar' : Registers} {i j g g' n : ℕ} {d d' : Direction} {ks : KeySet}

theorem OwnsGroup.unique (h : OwnsGroup kcbar i g) (h' : OwnsGroup kcbar i g') : g = g' := by
  rcases h with ⟨ks, hselected, hnamed⟩
  rcases h' with ⟨ks', hselected', hnamed'⟩
  rw [hselected, Option.some.injEq] at hselected'
  subst hselected'
  have hpr := (hnamed .rx .pr).symm.trans (hnamed' .rx .pr)
  omega

theorem OwnsGroup.div_eq (h : OwnsGroup kcbar i g) (hslot : InUse kcbar i d n) : n / 3 = g := by
  rcases h with ⟨ks, hselected, hnamed⟩
  rcases hslot.named with ⟨ks', hselected', subStream, rfl⟩
  rw [hselected, Option.some.injEq] at hselected'
  subst hselected'
  have hlt := subStream.index_lt
  rw [hnamed]
  omega

/-- Distinct enabled streams use disjoint slots. -/
theorem Exclusive.disjoint (h : Exclusive kcbar) (hne : i ≠ j) (hi : InUse kcbar i d n) :
    ¬InUse kcbar j d' n := by
  intro hj
  rcases h.grouped i hi.stream hi.enabled with ⟨g, -, howns⟩
  rcases h.grouped j hj.stream hj.enabled with ⟨g', -, howns'⟩
  have hg : g = g' := (howns.div_eq hi).symm.trans (howns'.div_eq hj)
  subst hg
  exact hne (h.unshared hi.stream hi.enabled hj.stream hj.enabled howns howns')

theorem FreeGroup.not_ownsGroup (h : FreeGroup kcbar g)
    (hi : StreamExists (kcbar capabilities) i) (henabled : Enabled kcbar i) :
    ¬OwnsGroup kcbar i g := by
  rintro ⟨ks, hselected, hnamed⟩
  rcases h.free i hi henabled with ⟨ks', hselected', -, hpr⟩
  rw [hselected, Option.some.injEq] at hselected'
  subst hselected'
  apply hpr
  rw [hnamed, SubStream.index]
  omega

/-- No slot of a free group is in use, whatever the direction. -/
theorem Exclusive.div_ne (h : Exclusive kcbar) (hfree : FreeGroup kcbar g)
    (hslot : InUse kcbar i d n) : n / 3 ≠ g := by
  rcases h.grouped i hslot.stream hslot.enabled with ⟨g', -, howns⟩
  rintro rfl
  rw [howns.div_eq hslot] at hfree
  exact hfree.not_ownsGroup hslot.stream hslot.enabled howns

theorem Exclusive.le_lastAllocated (h : Exclusive kcbar) (hslot : InUse kcbar i d n) :
    n ≤ lastAllocated (kcbar capabilities) := by
  rcases h.grouped i hslot.stream hslot.enabled with ⟨g, hle, howns⟩
  have hgroup := howns.div_eq hslot
  rw [lastAllocated]
  omega

/-! ### Streams that keep their registers -/

/-- The registers of a stream say the same. -/
structure SameStream (kcbar kcbar' : Registers) (j : ℕ) : Prop where
  enabled : Enabled kcbar' j ↔ Enabled kcbar j
  selected : selectedKeySet kcbar' j = selectedKeySet kcbar j
  named : ∀ d ks sub, namedSlot kcbar' j d ks sub = namedSlot kcbar j d ks sub

theorem SameStream.refl (kcbar : Registers) (j : ℕ) : SameStream kcbar kcbar j :=
  ⟨Iff.rfl, rfl, fun _ _ _ => rfl⟩

theorem SameStream.trans {kcbar'' : Registers} (h : SameStream kcbar kcbar' j)
    (h' : SameStream kcbar' kcbar'' j) : SameStream kcbar kcbar'' j :=
  ⟨h'.enabled.trans h.enabled, h'.selected.trans h.selected,
    fun d ks sub => (h'.named d ks sub).trans (h.named d ks sub)⟩

theorem SameStream.ownsGroup (h : SameStream kcbar kcbar' j) :
    OwnsGroup kcbar' j g ↔ OwnsGroup kcbar j g := by
  simp only [OwnsGroup, h.selected, h.named]

theorem SameStream.inUse (h : SameStream kcbar kcbar' j)
    (hcap : kcbar' capabilities = kcbar capabilities) :
    InUse kcbar' j d n ↔ InUse kcbar j d n := by
  have hnamed : (∃ ks, selectedKeySet kcbar' j = some ks ∧ ∃ sub, namedSlot kcbar' j d ks sub = n) ↔
      ∃ ks, selectedKeySet kcbar j = some ks ∧ ∃ sub, namedSlot kcbar j d ks sub = n := by
    simp only [h.selected, h.named]
  refine ⟨fun hin => ⟨?_, ?_, hnamed.mp hin.named⟩, fun hin => ⟨?_, ?_, hnamed.mpr hin.named⟩⟩
  · exact hcap ▸ hin.stream
  · exact h.enabled.mp hin.enabled
  · exact hcap.symm ▸ hin.stream
  · exact h.enabled.mpr hin.enabled

/-- A stream takes over a group that nobody owns. -/
theorem Exclusive.handover (h : Exclusive kcbar) (hfree : FreeGroup kcbar g)
    (hcap : kcbar' capabilities = kcbar capabilities)
    (hothers : ∀ j, j ≠ i → StreamExists (kcbar capabilities) j → SameStream kcbar kcbar' j)
    (howns : OwnsGroup kcbar' i g) : Exclusive kcbar' := by
  have hold : ∀ {j}, j ≠ i → StreamExists (kcbar capabilities) j → Enabled kcbar' j →
      ¬OwnsGroup kcbar' j g := by
    intro j hne hj henabled hgroup
    have hsame := hothers j hne hj
    exact hfree.not_ownsGroup hj (hsame.enabled.mp henabled) (hsame.ownsGroup.mp hgroup)
  refine ⟨?_, ?_⟩
  · intro j hj henabled
    rw [hcap] at hj ⊢
    by_cases hji : j = i
    · subst hji
      exact ⟨g, hfree.le_lastGroup, howns⟩
    · have hsame := hothers j hji hj
      rcases h.grouped j hj (hsame.enabled.mp henabled) with ⟨g', hle, hgroup⟩
      exact ⟨g', hle, hsame.ownsGroup.mpr hgroup⟩
  · intro j k g' hj hjEnabled hk hkEnabled hjOwns hkOwns
    rw [hcap] at hj hk
    by_cases hji : j = i
    · by_cases hki : k = i
      · rw [hji, hki]
      · subst hji
        rw [← howns.unique hjOwns] at hkOwns
        exact absurd hkOwns (hold hki hk hkEnabled)
    · by_cases hki : k = i
      · subst hki
        rw [← howns.unique hkOwns] at hjOwns
        exact absurd hjOwns (hold hji hj hjEnabled)
      · have hjSame := hothers j hji hj
        have hkSame := hothers k hki hk
        exact h.unshared hj (hjSame.enabled.mp hjEnabled) hk (hkSame.enabled.mp hkEnabled)
          (hjSame.ownsGroup.mp hjOwns) (hkSame.ownsGroup.mp hkOwns)

end Groups

/-! ## What the root port's operations keep -/

section Operations

variable (kcbar : Registers) {i j n : ℕ} {d d' : Direction} {ks : KeySet} {sub : SubStream}
  {slotId : BitVec 8} {key iv : List Dword}

theorem cfgRootportIdeKeys_sameStream (hne : j ≠ i) (hj : StreamExists (kcbar capabilities) j) :
    SameStream kcbar (cfgRootportIdeKeys kcbar i d ks sub slotId key iv) j :=
  ⟨cfgRootportIdeKeys_enabled kcbar hj, cfgRootportIdeKeys_selectedKeySet kcbar hj,
    fun _ _ _ => cfgRootportIdeKeys_namedSlot_of_ne kcbar hj fun h => hne h.1⟩

theorem primeRpIdeKeySet_sameStream : SameStream kcbar (primeRpIdeKeySet kcbar i d ks) j :=
  ⟨primeRpIdeKeySet_enabled kcbar, primeRpIdeKeySet_selectedKeySet kcbar,
    fun _ _ _ => primeRpIdeKeySet_namedSlot kcbar⟩

theorem setRpIdeKeySetSelect_sameStream (hne : j ≠ i) :
    SameStream kcbar (setRpIdeKeySetSelect kcbar i ks) j :=
  ⟨setRpIdeKeySetSelect_enabled kcbar, setRpIdeKeySetSelect_selectedKeySet_of_ne kcbar hne,
    fun _ _ _ => setRpIdeKeySetSelect_namedSlot kcbar⟩

theorem enableIdeStreamInKcbar_sameStream {enable : Bool} (hne : j ≠ i) :
    SameStream kcbar (enableIdeStreamInKcbar kcbar i enable) j :=
  ⟨enableIdeStreamInKcbar_enabled_of_ne kcbar hne, enableIdeStreamInKcbar_selectedKeySet kcbar,
    fun _ _ _ => enableIdeStreamInKcbar_namedSlot kcbar⟩

/-- A key write brings at most its own slot into use. -/
theorem inUse_of_cfgRootportIdeKeys
    (h : InUse (cfgRootportIdeKeys kcbar i d ks sub slotId key iv) j d' n) :
    InUse kcbar j d' n ∨ (j = i ∧ d' = d ∧ n = slotId.toNat) := by
  have hj := h.stream
  rw [cfgRootportIdeKeys_capabilities] at hj
  rcases h.named with ⟨ks', hselected, sub', hnamed⟩
  rw [cfgRootportIdeKeys_selectedKeySet kcbar hj] at hselected
  by_cases hself : j = i ∧ d' = d ∧ ks' = ks ∧ sub' = sub
  · rcases hself with ⟨rfl, rfl, rfl, rfl⟩
    rw [cfgRootportIdeKeys_namedSlot_self] at hnamed
    exact Or.inr ⟨rfl, rfl, hnamed.symm⟩
  · rw [cfgRootportIdeKeys_namedSlot_of_ne kcbar hj hself] at hnamed
    exact Or.inl ⟨hj, (cfgRootportIdeKeys_enabled kcbar hj).mp h.enabled, ks', hselected, sub',
      hnamed⟩

end Operations

/-! ## Key writes -/

/-- A key write that is not to a slot in use, and that leaves the key and the IV in every such
slot as they were. -/
structure Harmless (write : KeyWrite) : Prop where
  unused : ∀ i, ¬InUse write.before i write.direction write.slot
  key : ∀ i d n, InUse write.before i d n →
    Block.read write.after (keySlot (write.before capabilities) d n) 8 =
      Block.read write.before (keySlot (write.before capabilities) d n) 8
  iv : ∀ i d n, InUse write.before i d n →
    Block.read write.after (ivSlot (write.before capabilities) d n) 2 =
      Block.read write.before (ivSlot (write.before capabilities) d n) 2

theorem harmless_of_unused {kcbar : Registers} {i : ℕ} {d : Direction} {ks : KeySet}
    {sub : SubStream} {slotId : BitVec 8} {key iv : List Dword}
    (hi : StreamExists (kcbar capabilities) i) (hkeyLen : key.length = 8)
    (hivLen : iv.length = 2) (hunused : ∀ j, ¬InUse kcbar j d slotId.toNat)
    (hslots : ∀ j d' n, InUse kcbar j d' n →
      SlotExists (kcbar capabilities) d' n ∧ SlotExists (kcbar capabilities) d slotId.toNat) :
    Harmless ⟨kcbar, cfgRootportIdeKeys kcbar i d ks sub slotId key iv, d, slotId.toNat⟩ := by
  have hne : ∀ {j d' n}, InUse kcbar j d' n → d' = d → n ≠ slotId.toNat := by
    rintro j d' n hslot rfl rfl
    exact hunused j hslot
  refine ⟨hunused, ?_, ?_⟩
  · intro j d' n hslot
    rcases hslots j d' n hslot with ⟨hexists, hwritten⟩
    exact cfgRootportIdeKeys_read kcbar hi hkeyLen hivLen txKeySlot_le_keySlot
      (keySlot_disjoint_keySlot (hne hslot) hexists hwritten)
      (keySlot_disjoint_ivSlot hexists hwritten)
  · intro j d' n hslot
    rcases hslots j d' n hslot with ⟨hexists, hwritten⟩
    exact cfgRootportIdeKeys_read kcbar hi hkeyLen hivLen txKeySlot_le_ivSlot
      (keySlot_disjoint_ivSlot hwritten hexists).symm
      (ivSlot_disjoint_ivSlot (hne hslot) hexists hwritten)

/-! ## Enough slots to receive -/

/-- The root port has every slot that can be allocated while a stream is enabled: with at most
three slots to send there is one group, and numbers that the allocation refuses leave none. -/
def RxSlotsSuffice (cap : Dword) : Prop :=
  Admitted cap → 3 < numTxKeySlots.get cap + 1 → lastAllocated cap ≤ numRxKeySlots.get cap

instance (cap : Dword) : Decidable (RxSlotsSuffice cap) := inferInstanceAs (Decidable (_ → _))

/-- Where a group is free and a stream enabled, all slots that can be allocated exist. -/
theorem FreeGroup.slotExists {kcbar : Registers} {g i n : ℕ} (h : FreeGroup kcbar g)
    (hsuffice : RxSlotsSuffice (kcbar capabilities)) (hi : StreamExists (kcbar capabilities) i)
    (henabled : Enabled kcbar i) (d : Direction) (hn : n ≤ lastAllocated (kcbar capabilities)) :
    SlotExists (kcbar capabilities) d n := by
  cases d with
  | rx => exact hn.trans h.admitted.lastAllocated_le
  | tx => exact hn.trans (hsuffice h.admitted (h.several hi henabled))

/-! ## Programming a free group -/

/-- The invariant while the keys of a stream are written to a group of slots: what is in use
of the group was just written, and all else is as it was in the registers `kcbar`. -/
structure GroupInvariant (kcbar : Registers) (stream : Stream) (ks : KeySet) (g : ℕ)
    (done : List (Direction × SubStream)) (s : State) : Prop where
  cap : s.kcbar capabilities = kcbar capabilities
  others : ∀ j, j ≠ stream.rpStreamIndex → StreamExists (kcbar capabilities) j →
    SameStream kcbar s.kcbar j
  named : ∀ written ∈ done,
    namedSlot s.kcbar stream.rpStreamIndex written.1 ks written.2 = 3 * g + written.2.index
  guarded : ∀ j d n, InUse s.kcbar j d n →
    n / 3 ≠ g ∨ ∃ sub, (d, sub) ∈ done ∧ n = 3 * g + sub.index
  bounded : ∀ j d n, InUse s.kcbar j d n → n ≤ lastAllocated (kcbar capabilities)
  enabled : ∀ j, StreamExists (kcbar capabilities) j → (Enabled s.kcbar j ↔ Enabled kcbar j)
  harmless : RxSlotsSuffice (kcbar capabilities) → ∀ write ∈ s.keyWrites, Harmless write

section Programming

variable {lib : PciIdeKmLib} {env : Environment} {stream : Stream} {ks : KeySet} {g : ℕ}
  {kcbar : Registers} {done : List (Direction × SubStream)} {direction : Direction}
  {substream : SubStream} {key : Key} {s s' : State}

/-- The next slot of the group is not in use. -/
theorem GroupInvariant.unused (h : GroupInvariant kcbar stream ks g done s)
    (hnew : (direction, substream) ∉ done) (j : ℕ) :
    ¬InUse s.kcbar j direction (3 * g + substream.index) := by
  intro hslot
  have hlt := substream.index_lt
  rcases h.guarded j direction _ hslot with hne | ⟨sub, hmem, heq⟩
  · exact hne (by omega)
  · have hsub := SubStream.index_inj (Nat.add_left_cancel heq)
    rw [← hsub] at hmem
    exact hnew hmem

/-- Where the slots suffice, a slot in use and the next slot of the group exist. -/
theorem GroupInvariant.slotExists (h : GroupInvariant kcbar stream ks g done s)
    (hfree : FreeGroup kcbar g) (hsuffice : RxSlotsSuffice (kcbar capabilities)) {j n : ℕ}
    {d : Direction} (hslot : InUse s.kcbar j d n) :
    SlotExists (kcbar capabilities) d n ∧
      SlotExists (kcbar capabilities) direction (3 * g + substream.index) := by
  have hj : StreamExists (kcbar capabilities) j := h.cap ▸ hslot.stream
  have henabled := (h.enabled j hj).mp hslot.enabled
  exact ⟨hfree.slotExists hsuffice hj henabled d (h.bounded j d n hslot),
    hfree.slotExists hsuffice hj henabled direction
      (slot_le_lastAllocated hfree.le_lastGroup substream)⟩

theorem GroupInvariant.keyProgrammed (h : GroupInvariant kcbar stream ks g done s)
    (hfree : FreeGroup kcbar g)
    (hstream : StreamExists (kcbar capabilities) stream.rpStreamIndex)
    (hnew : (direction, substream) ∉ done)
    (hkey : KeyProgrammed lib stream ks (slotGroup g) direction substream key s s') :
    GroupInvariant kcbar stream ks g (done ++ [(direction, substream)]) s' := by
  have hslot : (slotId (slotGroup g) direction substream).toNat = 3 * g + substream.index :=
    slotGroup_toNat hfree.lt direction substream
  have hstreamNow : StreamExists (s.kcbar capabilities) stream.rpStreamIndex := h.cap ▸ hstream
  refine ⟨?_, ?_, ?_, ?_, ?_, ?_, ?_⟩
  · rw [hkey.kcbar, ← h.cap]
    exact cfgRootportIdeKeys_capabilities _
  · intro j hne hj
    apply (h.others j hne hj).trans
    rw [hkey.kcbar]
    exact cfgRootportIdeKeys_sameStream s.kcbar hne (h.cap ▸ hj)
  · intro written hmem
    rw [hkey.kcbar, keyProgKcbar]
    by_cases hself : written = (direction, substream)
    · rw [hself, cfgRootportIdeKeys_namedSlot_self]
      exact hslot
    · have hold : written ∈ done := by
        rcases List.mem_append.mp hmem with hdone | hlast
        · exact hdone
        · exact absurd (List.mem_singleton.mp hlast) hself
      rw [cfgRootportIdeKeys_namedSlot_of_ne s.kcbar hstreamNow]
      · exact h.named written hold
      · rintro ⟨_, hd, _, hsub⟩
        exact hself (Prod.ext hd hsub)
  · intro j d n hin
    rw [hkey.kcbar] at hin
    rcases inUse_of_cfgRootportIdeKeys s.kcbar hin with hbefore | ⟨_, rfl, rfl⟩
    · rcases h.guarded j d n hbefore with hne | ⟨sub, hmem, heq⟩
      · exact Or.inl hne
      · exact Or.inr ⟨sub, List.mem_append_left _ hmem, heq⟩
    · exact Or.inr ⟨substream, List.mem_append_right _ (List.mem_singleton_self _), hslot⟩
  · intro j d n hin
    rw [hkey.kcbar] at hin
    rcases inUse_of_cfgRootportIdeKeys s.kcbar hin with hbefore | ⟨_, rfl, rfl⟩
    · exact h.bounded j d n hbefore
    · rw [hslot]
      exact slot_le_lastAllocated hfree.le_lastGroup substream
  · intro j hj
    rw [hkey.kcbar]
    exact (cfgRootportIdeKeys_enabled s.kcbar (h.cap ▸ hj)).trans (h.enabled j hj)
  · intro hsuffice write hmem
    rw [hkey.keyWrites] at hmem
    rcases List.mem_append.mp hmem with hold | hlast
    · exact h.harmless hsuffice write hold
    · rw [List.mem_singleton.mp hlast, hkey.kcbar]
      apply harmless_of_unused hstreamNow (pcieConstructRpKeys_length key) rfl
      · rw [hslot]
        exact h.unused hnew
      · intro j d n hin
        rw [hslot, h.cap]
        exact h.slotExists hfree hsuffice hin

theorem GroupInvariant.primed (h : GroupInvariant kcbar stream ks g done s) :
    GroupInvariant kcbar stream ks g done
      { s with kcbar := primeRpIdeKeySet s.kcbar stream.rpStreamIndex direction ks } := by
  have hsame : ∀ j, SameStream s.kcbar
      (primeRpIdeKeySet s.kcbar stream.rpStreamIndex direction ks) j :=
    fun _ => primeRpIdeKeySet_sameStream s.kcbar
  have hinUse : ∀ {j d n},
      InUse (primeRpIdeKeySet s.kcbar stream.rpStreamIndex direction ks) j d n →
      InUse s.kcbar j d n :=
    fun hin => ((hsame _).inUse (primeRpIdeKeySet_capabilities s.kcbar)).mp hin
  refine ⟨?_, ?_, ?_, ?_, ?_, ?_, h.harmless⟩
  · exact (primeRpIdeKeySet_capabilities s.kcbar).trans h.cap
  · intro j hne hj
    exact (h.others j hne hj).trans (hsame j)
  · intro written hmem
    exact (primeRpIdeKeySet_namedSlot s.kcbar).trans (h.named written hmem)
  · intro j d n hin
    exact h.guarded j d n (hinUse hin)
  · intro j d n hin
    exact h.bounded j d n (hinUse hin)
  · intro j hj
    exact (hsame j).enabled.trans (h.enabled j hj)

/-- What a run of the six keys leaves behind. -/
theorem programStream_groupInvariant (hexclusive : Exclusive s.kcbar)
    (hfree : FreeGroup s.kcbar g)
    (hstream : StreamExists (s.kcbar capabilities) stream.rpStreamIndex)
    (hharmless : RxSlotsSuffice (s.kcbar capabilities) → ∀ write ∈ s.keyWrites, Harmless write)
    (h : programStream lib env stream ks (slotGroup g) s = (true, s')) :
    GroupInvariant s.kcbar stream ks g streamKeys s' := by
  apply programStream_induction (P := GroupInvariant s.kcbar stream ks g) ?_ ?_ ?_ h
  · intro done direction substream s₁ s₂ hnew hinv hprog
    rcases ideKmKeyProg_true hprog with ⟨key, hkey⟩
    exact hinv.keyProgrammed hfree hstream hnew hkey
  · intro done direction s₁ hinv
    exact hinv.primed
  · refine ⟨rfl, fun j _ _ => SameStream.refl _ j, ?_, ?_, ?_, fun _ _ => Iff.rfl, hharmless⟩
    · intro written hmem
      cases hmem
    · intro j d n hslot
      exact Or.inl (hexclusive.div_ne hfree hslot)
    · intro j d n hslot
      exact hexclusive.le_lastAllocated hslot

/-- Selecting the key set hands the group over. -/
theorem goStream_ownsGroup (hinv : GroupInvariant kcbar stream ks g streamKeys s)
    (h : goStream lib env stream ks s = (true, s')) :
    s'.kcbar capabilities = kcbar capabilities ∧
      (∀ j, j ≠ stream.rpStreamIndex → StreamExists (kcbar capabilities) j →
        SameStream kcbar s'.kcbar j) ∧
      OwnsGroup s'.kcbar stream.rpStreamIndex g ∧ s'.keyWrites = s.keyWrites := by
  have hstate := goStream_true h
  subst hstate
  refine ⟨?_, ?_, ⟨ks, setRpIdeKeySetSelect_selectedKeySet_self s.kcbar, ?_⟩, rfl⟩
  · exact (@setRpIdeKeySetSelect_capabilities s.kcbar stream.rpStreamIndex ks).trans hinv.cap
  · intro j hne hj
    exact (hinv.others j hne hj).trans (setRpIdeKeySetSelect_sameStream s.kcbar hne)
  · intro direction subStream
    exact (setRpIdeKeySetSelect_namedSlot s.kcbar).trans
      (hinv.named _ (mem_streamKeys direction subStream))

end Programming

/-! ## Runs -/

/-- A complete opening of a stream or a complete key refresh, each with a stream that the root
port has. Nothing else happens to the registers, also while a refresh waits for slots. Whether
the link is found secure at the end does not matter. -/
inductive Step (lib : PciIdeKmLib) (env : Environment) : State → State → Prop where
  | opening {stream ks kSet topType s s₁ s'}
      (hstream : StreamExists (s.kcbar capabilities) stream.rpStreamIndex)
      (halloc : pcieIdeAllocSlotIds s.kcbar = .found kSet)
      (hprogram : programStream lib env stream ks kSet s = (true, s₁))
      (hstart : startIdeStream lib env stream ks topType s₁ = some (true, s')) :
      Step lib env s s'
  | refresh {stream ks kSet retries s s₁ s₂ s'}
      (hstream : StreamExists (s.kcbar capabilities) stream.rpStreamIndex)
      (hothers : ∀ retry ∈ retries, retry.others = id)
      (hwait : waitForSlots retries s = some (some kSet, s₁))
      (hprogram : programStream lib env stream ks kSet s₁ = (true, s₂))
      (hgo : goStream lib env stream ks s₂ = (true, s')) :
      Step lib env s s'

section Calls

variable {lib : PciIdeKmLib} {env : Environment} {stream : Stream} {ks : KeySet}
  {kSet kSet' : IdeKeySet} {topType : TopologyType} {ports : Ports} {s s' : State}

/-- A successful setup with the slots found for it is an opening. -/
theorem step_of_setupIdeStream (hstream : StreamExists (s.kcbar capabilities) stream.rpStreamIndex)
    (halloc : pcieIdeAllocSlotIds s.kcbar = .found kSet)
    (h : setupIdeStream lib env stream ks kSet topType ports false s = some (true, s')) :
    Step lib env s s' := by
  rcases setupIdeStream_true h with ⟨s₁, hprogram, hstart⟩
  exact .opening hstream halloc hprogram hstart

/-- A successful key switch is a refresh. -/
theorem step_of_ideKeySwitchTo {retries : List Retry}
    (hstream : StreamExists (s.kcbar capabilities) stream.rpStreamIndex)
    (hothers : ∀ retry ∈ retries, retry.others = id)
    (h : ideKeySwitchTo lib env stream kSet topType ports retries ks false s =
      some (true, kSet', s')) : Step lib env s s' := by
  rcases ideKeySwitchTo_true h with ⟨s₁, s₂, hwait, hprogram, hgo⟩
  exact .refresh hstream hothers hwait hprogram hgo

end Calls

/-- The invariant of a run. -/
structure RunInvariant (cap : Dword) (s : State) : Prop where
  cap_eq : s.kcbar capabilities = cap
  exclusive : Exclusive s.kcbar
  harmless : RxSlotsSuffice cap → ∀ write ∈ s.keyWrites, Harmless write

theorem waitForSlots_id {retries : List Retry} {found : Option IdeKeySet} {s s' : State}
    (hothers : ∀ retry ∈ retries, retry.others = id)
    (h : waitForSlots retries s = some (found, s')) : s' = s := by
  induction retries generalizing s with
  | nil =>
      rw [waitForSlots] at h
      split at h
      · cases h
      · cases h
        rfl
      · cases h
  | cons retry retries ih =>
      have hid := hothers retry List.mem_cons_self
      rw [waitForSlots] at h
      split at h
      · cases h
      · cases h
        rfl
      · simp only [hid, id_eq] at h
        split at h
        · cases h
          rfl
        · exact ih (fun other hmem => hothers other (List.mem_cons_of_mem _ hmem)) h

theorem Step.runInvariant {lib : PciIdeKmLib} {env : Environment} {cap : Dword} {s s' : State}
    (h : Step lib env s s') (hinv : RunInvariant cap s) : RunInvariant cap s' := by
  rcases hinv with ⟨rfl, hexclusive, hharmless⟩
  cases h with
  | opening hstream halloc hprogram hstart =>
      rename_i stream ks kSet topType s₁
      rcases pcieIdeAllocSlotIds_found halloc with ⟨g, rfl, hfree⟩
      have hgroup := programStream_groupInvariant hexclusive hfree hstream hharmless hprogram
      rcases startIdeStream_true hstart with ⟨s₂, hgo, rfl⟩
      rcases goStream_ownsGroup hgroup hgo with ⟨hcap, hothers, ⟨ks', hselected, hnamed⟩, hwrites⟩
      have hcap' : enableIdeStreamInKcbar s₂.kcbar stream.rpStreamIndex true capabilities =
          s.kcbar capabilities :=
        (enableIdeStreamInKcbar_capabilities s₂.kcbar).trans hcap
      refine ⟨hcap', hexclusive.handover (i := stream.rpStreamIndex) hfree hcap' ?_ ?_, ?_⟩
      · intro j hne hj
        exact (hothers j hne hj).trans (enableIdeStreamInKcbar_sameStream s₂.kcbar hne)
      · refine ⟨ks', ?_, ?_⟩
        · exact (enableIdeStreamInKcbar_selectedKeySet s₂.kcbar).trans hselected
        · intro direction subStream
          exact (enableIdeStreamInKcbar_namedSlot s₂.kcbar).trans (hnamed direction subStream)
      · exact hwrites ▸ hgroup.harmless
  | refresh hstream hothers hwait hprogram hgo =>
      rename_i stream ks kSet retries s₁ s₂
      have hsame := waitForSlots_id hothers hwait
      subst hsame
      rcases pcieIdeAllocSlotIds_found (waitForSlots_some hwait) with ⟨g, rfl, hfree⟩
      have hgroup := programStream_groupInvariant hexclusive hfree hstream hharmless hprogram
      rcases goStream_ownsGroup hgroup hgo with ⟨hcap, hothers, howns, hwrites⟩
      exact ⟨hcap, hexclusive.handover hfree hcap hothers howns, hwrites ▸ hgroup.harmless⟩

/-- A run starts with no stream enabled. -/
theorem runInvariant_of_disabled {s : State}
    (hdisabled : ∀ i, StreamExists (s.kcbar capabilities) i → ¬Enabled s.kcbar i)
    (hnone : s.keyWrites = []) : RunInvariant (s.kcbar capabilities) s := by
  refine ⟨rfl, ⟨?_, ?_⟩, ?_⟩
  · intro i hi henabled
    exact absurd henabled (hdisabled i hi)
  · intro i j g hi henabled
    exact absurd henabled (hdisabled i hi)
  · rw [hnone]
    intro _ write hmem
    cases hmem

theorem runInvariant_of_run {lib : PciIdeKmLib} {env : Environment} {cap : Dword} {s s' : State}
    (hrun : Relation.ReflTransGen (Step lib env) s s') (hinv : RunInvariant cap s) :
    RunInvariant cap s' := by
  induction hrun with
  | refl => exact hinv
  | tail _ hstep ih => exact hstep.runInvariant ih

/-- Three slots in each direction that no enabled stream's selected key set names. -/
structure UnusedTriple (kcbar : Registers) (kSet : IdeKeySet) : Prop where
  distinct : ∀ d sub sub', kSet d sub = kSet d sub' → sub = sub'
  unused : ∀ d sub i d', ¬InUse kcbar i d' (kSet d sub).toNat

theorem unusedTriple_of_found {kcbar : Registers} {kSet : IdeKeySet} (hexclusive : Exclusive kcbar)
    (h : pcieIdeAllocSlotIds kcbar = .found kSet) : UnusedTriple kcbar kSet := by
  rcases pcieIdeAllocSlotIds_found h with ⟨g, rfl, hfree⟩
  have hnat : ∀ d sub, (slotGroup g d sub).toNat = 3 * g + sub.index := by
    intro d sub
    have hg := hfree.lt
    have hlt := sub.index_lt
    rw [slotGroup, BitVec.toNat_ofNat]
    omega
  refine ⟨?_, ?_⟩
  · intro d sub sub' heq
    have hslots := congrArg BitVec.toNat heq
    rw [hnat, hnat] at hslots
    exact SubStream.index_inj (Nat.add_left_cancel hslots)
  · intro d sub i d' hslot
    have hlt := sub.index_lt
    rw [hnat] at hslot
    exact hexclusive.div_ne hfree hslot (by omega)

/-- No key slot in use was overwritten, the allocation finds unused slots, and the enabled
streams use disjoint slots. -/
structure SlotsSafe (s : State) : Prop where
  harmless : ∀ write ∈ s.keyWrites, Harmless write
  unused : ∀ kSet, pcieIdeAllocSlotIds s.kcbar = .found kSet → UnusedTriple s.kcbar kSet
  disjoint : ∀ i j, i ≠ j → ∀ d d' n, InUse s.kcbar i d n → ¬InUse s.kcbar j d' n

theorem RunInvariant.slotsSafe {cap : Dword} {s : State} (h : RunInvariant cap s)
    (hsuffice : RxSlotsSuffice cap) : SlotsSafe s := by
  refine ⟨h.harmless hsuffice, fun kSet => unusedTriple_of_found h.exclusive, ?_⟩
  intro i j hne d d' n
  exact h.exclusive.disjoint hne

/-- Where the slots to receive suffice, the slots are safe over every run of complete openings
and refreshes. -/
theorem keySlots_safe (lib : PciIdeKmLib) (env : Environment) {s s' : State}
    (hsuffice : RxSlotsSuffice (s.kcbar capabilities))
    (hdisabled : ∀ i, StreamExists (s.kcbar capabilities) i → ¬Enabled s.kcbar i)
    (hnone : s.keyWrites = []) (hrun : Relation.ReflTransGen (Step lib env) s s') :
    SlotsSafe s' :=
  (runInvariant_of_run hrun (runInvariant_of_disabled hdisabled hnone)).slotsSafe hsuffice

/-! ## An opening and a refresh of the small stream -/

theorem not_enabled_initialState {numTx numRx i : ℕ} :
    ¬Enabled (initialState numTx numRx).kcbar i := by
  have hcontrol : (initialState numTx numRx).kcbar (streamControl i) = 0 := by
    simp [initialState, capabilities_ne_streamControl.symm]
  rw [Enabled, hcontrol]
  decide

/-- A device that accepts both. -/
def refreshingDevice : Environment := acceptingDevice fun round => if round = 0 then .ks0 else .ks1

def smallOpening (s : State) : Option (Bool × State) :=
  setupIdeStream pciIdeKm refreshingDevice smallStream .ks0 (slotGroup 0) .selIde readyPorts false s

def smallRefresh (s : State) : Option (Bool × IdeKeySet × State) :=
  ideKeySwitchTo pciIdeKm refreshingDevice smallStream (slotGroup 0) .selIde readyPorts [] .ks1
    false s

theorem run_small {s s₁ s₂ : State} (halloc : pcieIdeAllocSlotIds s.kcbar = .found (slotGroup 0))
    (hopening : smallOpening s = some (true, s₁))
    (hrefresh : smallRefresh s₁ = some (true, slotGroup 1, s₂)) :
    Relation.ReflTransGen (Step pciIdeKm refreshingDevice) s s₂ := by
  have hstream : ∀ cap, StreamExists cap smallStream.rpStreamIndex := fun _ => Nat.zero_le _
  have hfirst : Step pciIdeKm refreshingDevice s s₁ :=
    step_of_setupIdeStream (hstream _) halloc hopening
  have hsecond : Step pciIdeKm refreshingDevice s₁ s₂ :=
    step_of_ideKeySwitchTo (hstream _) (fun _ hmem => absurd hmem List.not_mem_nil) hrefresh
  exact (Relation.ReflTransGen.single hfirst).tail hsecond

theorem keySlots_safe_small : ∃ s' : State, s'.keyWrites.length = 12 ∧ SlotsSafe s' := by
  rcases (⟨_, _, rfl, rfl, rfl⟩ : ∃ s₁ s₂, smallOpening (initialState 6 6) = some (true, s₁) ∧
      smallRefresh s₁ = some (true, slotGroup 1, s₂) ∧ s₂.keyWrites.length = 12)
    with ⟨s₁, s₂, hopening, hrefresh, hlength⟩
  exact ⟨s₂, hlength, keySlots_safe pciIdeKm refreshingDevice (s := initialState 6 6) (by decide)
    (fun _ _ => not_enabled_initialState) rfl (run_small rfl hopening hrefresh)⟩

/-- With three slots to receive, the refresh writes a key over the IV of a slot in use. -/
theorem not_keySlots_safe : ¬∀ (lib : PciIdeKmLib) (env : Environment) (s s' : State),
    (∀ i, StreamExists (s.kcbar capabilities) i → ¬Enabled s.kcbar i) → s.keyWrites = [] →
    Relation.ReflTransGen (Step lib env) s s' → SlotsSafe s' := by
  rcases (⟨_, _, _, rfl, rfl, rfl, ⟨by decide +kernel, by decide +kernel, .ks0,
      by decide +kernel, .pr, by decide +kernel⟩, by decide +kernel⟩ : ∃ s₁ s₂ write,
      smallOpening (initialState 6 3) = some (true, s₁) ∧
      smallRefresh s₁ = some (true, slotGroup 1, s₂) ∧
      s₂.keyWrites[9]? = some write ∧ InUse write.before 0 .tx 0 ∧
      Block.read write.after (ivSlot (write.before capabilities) .tx 0) 2 ≠
        Block.read write.before (ivSlot (write.before capabilities) .tx 0) 2)
    with ⟨s₁, s₂, write, hopening, hrefresh, hwrite, hinUse, hiv⟩
  intro hall
  have hsafe := hall pciIdeKm refreshingDevice (initialState 6 3) s₂
    (fun _ _ => not_enabled_initialState) rfl (run_small rfl hopening hrefresh)
  exact hiv ((hsafe.harmless write (List.mem_of_getElem? hwrite)).iv 0 .tx 0 hinUse)

end TeeIoValidator.PcieIde
