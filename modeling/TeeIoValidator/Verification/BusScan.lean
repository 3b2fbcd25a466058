import TeeIoValidator.Model.BusScan
import TeeIoValidator.Verification.GroupSetup.Scan
import TeeIoValidator.Verification.IniConfig.Cases

/-! The addresses and the buses of a scan, and the class codes that it lets through. -/

namespace TeeIoValidator.BusScan

open GroupSetup IniConfig IniFile

/-! ## Numbers in an address -/

theorem hexDigitValue_hexDigit {d : ℕ} (h : d < 16) : hexDigitValue (hexDigit d) = d := by
  have hall : ∀ d < 16, hexDigitValue (hexDigit d) = d := by decide
  exact hall d h

theorem isValidDigitalChar_hexDigit {d : ℕ} (h : d < 16) :
    isValidDigitalChar (hexDigit d) true = true := by
  have hall : ∀ d < 16, isValidDigitalChar (hexDigit d) true = true := by decide
  exact hall d h

theorem digitsValue_hexPadded {w n : ℕ} (h : n < 16 ^ w) : digitsValue 16 (hexPadded w n) = n := by
  induction w generalizing n with
  | zero =>
      obtain rfl : n = 0 := by omega
      rfl
  | succ w ih =>
      have hquot : n / 16 < 16 ^ w := Nat.div_lt_of_lt_mul (by rwa [← Nat.pow_succ'])
      rw [hexPadded, digitsValue_append, ih hquot,
        hexDigitValue_hexDigit (Nat.mod_lt n (by decide))]
      exact Nat.div_add_mod n 16

theorem isValidDigital_hexPadded (w n : ℕ) : isValidDigital (hexPadded w n) true = true := by
  induction w generalizing n with
  | zero => rfl
  | succ w ih =>
      have hlast := isValidDigitalChar_hexDigit (Nat.mod_lt n (by decide : 16 > 0))
      rw [hexPadded, isValidDigital, List.all_append, Bool.and_eq_true]
      exact ⟨ih (n / 16), by simp [hlast]⟩

theorem hexPadded_ne_nil (w n : ℕ) : hexPadded (w + 1) n ≠ [] := by
  rw [hexPadded]
  exact List.append_ne_nil_of_right_ne_nil _ (List.cons_ne_nil _ _)

/-- A digit is none of the characters that a number may start with otherwise. -/
theorem not_isSpace_of_digit {c : UInt8} (h : isValidDigitalChar c true = true) :
    isSpace c = false ∧ c ≠ '-'.toUInt8 ∧ c ≠ '+'.toUInt8 ∧ c ≠ 'x'.toUInt8 ∧ c ≠ 'X'.toUInt8 := by
  have hall : ∀ c : Fin 256, isValidDigitalChar (UInt8.ofFin c) true = true →
      isSpace (UInt8.ofFin c) = false ∧ UInt8.ofFin c ≠ '-'.toUInt8 ∧
        UInt8.ofFin c ≠ '+'.toUInt8 ∧ UInt8.ofFin c ≠ 'x'.toUInt8 ∧
        UInt8.ofFin c ≠ 'X'.toUInt8 := by decide +kernel
  exact hall c.toFin h

theorem splitHexPrefix_digits {s : List UInt8} (h : isValidDigital s true = true) :
    splitHexPrefix s = (false, s) := by
  match s, h with
  | [], _ => rfl
  | [c], _ => rfl
  | c :: x :: s, h =>
      have hx : isValidDigitalChar x true = true := by
        simp only [isValidDigital, List.all_cons, Bool.and_eq_true] at h
        exact h.2.1
      obtain ⟨-, -, -, hx', hX⟩ := not_isSpace_of_digit hx
      rw [splitHexPrefix, if_neg]
      rintro ⟨-, hor⟩
      exact hor.elim hx' hX

/-- A text of digits is read whole. -/
theorem sscanfHex_digits {s : List UInt8} (h : isValidDigital s true = true) (hne : s ≠ [])
    (res : BitVec 32) : sscanfHex s res = BitVec.ofNat 32 (digitsValue 16 s) := by
  have hdigits : (s.takeWhile fun c => isValidDigitalChar c true) = s :=
    List.takeWhile_eq_self_iff.mpr (List.all_eq_true.mp h)
  obtain ⟨c, rest, rfl⟩ := List.exists_cons_of_ne_nil hne
  have hc : isValidDigitalChar c true = true := List.all_eq_true.mp h c List.mem_cons_self
  obtain ⟨hspace, hminus, hplus, -, -⟩ := not_isSpace_of_digit hc
  have hdrop : (c :: rest).dropWhile isSpace = c :: rest := by simp [hspace]
  have hsign : splitSign (c :: rest) = (false, c :: rest) := by
    rw [splitSign, if_neg hminus, if_neg hplus]
  simp [sscanfHex, hdrop, hsign, splitHexPrefix_digits h, hdigits]

theorem sscanfHex_hexPadded {w n : ℕ} (h : n < 16 ^ (w + 1)) (res : BitVec 32) :
    sscanfHex (hexPadded (w + 1) n) res = BitVec.ofNat 32 n := by
  rw [sscanfHex_digits (isValidDigital_hexPadded _ _) (hexPadded_ne_nil w n),
    digitsValue_hexPadded h]

/-- The address that is formatted is read again, with the low bits of the function. -/
theorem parseBdfString_formatBdf (segment : BitVec 16) (bus device function : BitVec 8) :
    parseBdfString (formatBdf segment bus device function) =
      some ⟨segment, bus, device, function &&& 0xf⟩ := by
  have hfunction : (function &&& 0xf).toNat < 16 := by
    rw [BitVec.toNat_and]
    exact Nat.and_lt_two_pow _ (n := 4) (by decide)
  have hsegment : (formatBdf segment bus device function).take 4 = hexPadded 4 segment.toNat := rfl
  have hbus : ((formatBdf segment bus device function).drop 5).take 2 =
      hexPadded 2 bus.toNat := rfl
  have hdevice : ((formatBdf segment bus device function).drop 8).take 2 =
      hexPadded 2 device.toNat := rfl
  have hfn : ((formatBdf segment bus device function).drop 11).take 1 =
      hexPadded 1 (function &&& 0xf).toNat := rfl
  rw [parseBdfString, if_neg (fun h => h rfl), hsegment, hbus, hdevice, hfn,
    sscanfHex_hexPadded (w := 3) segment.isLt]
  simp only [sscanfHex_hexPadded (w := 1) bus.isLt, sscanfHex_hexPadded (w := 1) device.isLt,
    sscanfHex_hexPadded (w := 0) hfunction]
  simp

theorem hexDigitValue_lt {c : UInt8} (h : isValidDigitalChar c true = true) :
    hexDigitValue c < 16 := by
  have hall : ∀ c : Fin 256, isValidDigitalChar (UInt8.ofFin c) true = true →
      hexDigitValue (UInt8.ofFin c) < 16 := by decide +kernel
  exact hall c.toFin h

/-- The functions that `is_valid_dev_func` accepts in the configuration are one digit. -/
theorem function_lt_of_isValidDevFunc {df : List UInt8} (h : isValidDevFunc df = true) :
    digitsValue 16 (df.drop 3) < 16 := by
  match df, h with
  | [d₁, d₀, dot, f], h =>
      have hf : isValidDigitalChar f true = true := by
        simp only [isValidDevFunc, Bool.and_eq_true] at h
        exact h.2
      simpa [digitsValue] using hexDigitValue_lt hf

/-! ## One element -/

/-- The text of a port is that of its address, with the low bits of its function. -/
def Port.Formatted (port : Port) : Prop :=
  port.bdf = formatBdf port.segment port.bus port.device port.function

/-- The text of a port reads as its address. -/
def Port.Reads (port : Port) : Prop := parseBdfString port.bdf = some port.toAddress

theorem Port.formatted_placed (segment : BitVec 16) (bus : BitVec 8) (port : Port) :
    (port.placed segment bus).Formatted := rfl

theorem Port.Formatted.reads_iff {port : Port} (h : port.Formatted) :
    port.Reads ↔ port.function.toNat < 16 := by
  rw [Reads, h, parseBdfString_formatBdf, Option.some.injEq]
  have hlow : port.function &&& 0xf = port.function ↔ port.function.toNat < 16 := by
    rw [← BitVec.toNat_inj, BitVec.toNat_and]
    show port.function.toNat &&& (2 ^ 4 - 1) = _ ↔ _
    rw [Nat.and_two_pow_sub_one_eq_mod]
    omega
  rw [← hlow, Address.mk.injEq]
  simp

section Element

variable {accepts : Header → Option Bool} {segment : BitVec 16} {bus : BitVec 8} {e : Element}
  {ports : ℕ → Port} {s s' : State}

/-- A scan that succeeds has stored the element's address. -/
theorem scanElement_eq_true (h : scanElement accepts segment bus e s = some (true, s')) :
    s' = { ports := Function.update s.ports e.port ((s.ports e.port).placed segment bus)
           scanned := s.scanned ++ [(e, (s.ports e.port).placed segment bus)] } := by
  rw [scanElement] at h
  split at h
  · obtain ⟨res, -, heq⟩ := Option.map_eq_some_iff.mp h
    exact (Prod.mk.inj heq).2.symm
  · cases h

/-- What a scan keeps of the ports. -/
structure Keeps (ports : ℕ → Port) (s : State) : Prop where
  formatted : ∀ scan ∈ s.scanned, (s.ports scan.1.port).Formatted
  device : ∀ p, (s.ports p).device = (ports p).device
  function : ∀ p, (s.ports p).function = (ports p).function

theorem Keeps.start (ports : ℕ → Port) : Keeps ports ⟨ports, []⟩ where
  formatted := by simp
  device _ := rfl
  function _ := rfl

theorem Keeps.placed (h : Keeps ports s) (p : ℕ) :
    (s.ports p).placed segment bus = (ports p).placed segment bus := by
  rw [Port.placed, Port.placed, h.device, h.function]

theorem Keeps.scanElement (hkeeps : Keeps ports s)
    (h : scanElement accepts segment bus e s = some (true, s')) : Keeps ports s' := by
  obtain rfl := scanElement_eq_true h
  have hports : ∀ p, p ≠ e.port → Function.update s.ports e.port
      ((s.ports e.port).placed segment bus) p = s.ports p :=
    fun p hne => Function.update_of_ne hne _ _
  constructor
  · intro scan hscan
    by_cases heq : scan.1.port = e.port
    · simp only [heq, Function.update_self]
      exact Port.formatted_placed segment bus _
    · simp only [hports _ heq]
      rcases List.mem_append.mp hscan with hmem | hmem
      · exact hkeeps.formatted scan hmem
      · rw [List.mem_singleton.mp hmem] at heq
        exact absurd rfl heq
  · intro p
    by_cases heq : p = e.port
    · simp only [heq, Function.update_self]
      exact hkeeps.device e.port
    · simp only [hports p heq]
      exact hkeeps.device p
  · intro p
    by_cases heq : p = e.port
    · simp only [heq, Function.update_self]
      exact hkeeps.function e.port
    · simp only [hports p heq]
      exact hkeeps.function p

end Element

/-! ## The chain -/

/-- The elements with what is stored in their ports, from a bus on. -/
def route (segment : BitVec 16) (ports : ℕ → Port) (ep : Element) :
    List Element → BitVec 8 → List (Element × Port)
  | [], bus => [(ep, (ports ep.port).placed segment bus)]
  | bridge :: bridges, bus =>
    (bridge, (ports bridge.port).placed segment bus) ::
      route segment ports ep bridges bridge.secBus

/-- The scan of the elements one after the other. -/
def scanRoute (segment : BitVec 16) (ep : Element) :
    List Element → BitVec 8 → State → Option (Bool × State)
  | [], bus, s => scanEndpointAtBus segment bus ep s
  | bridge :: bridges, bus, s =>
    match scanRpSwitchInternalPortAtBus segment bus bridge s with
    | some (true, s) => scanRoute segment ep bridges bridge.secBus s
    | result => result

/-- The connections are scanned port by port. -/
theorem scanConns_eq (segment : BitVec 16) (ep : Element) (conns : List (Element × Element))
    (bus : BitVec 8) (s : State) :
    scanConns segment ep conns bus s =
      scanRoute segment ep (conns.flatMap fun conn => [conn.1, conn.2]) bus s := by
  induction conns generalizing bus s with
  | nil => rfl
  | cons conn conns ih =>
      obtain ⟨ups, dps⟩ := conn
      rw [scanConns, List.flatMap_cons, List.cons_append, scanRoute, scanSwitchInternalConnAtBus]
      match scanRpSwitchInternalPortAtBus segment bus ups s with
      | none => rfl
      | some (false, s) => rfl
      | some (true, s) =>
          simp only [List.cons_append, List.nil_append, scanRoute]
          match scanRpSwitchInternalPortAtBus segment ups.secBus dps s with
          | none => rfl
          | some (false, s) => rfl
          | some (true, s) => exact ih dps.secBus s

theorem scanDevicesAtBus_eq (rp ep : Element) (conns : List (Element × Element))
    (segment : BitVec 16) (bus : BitVec 8) (ports : ℕ → Port) :
    scanDevicesAtBus rp ep conns segment bus ports =
      scanRoute segment ep (bridges rp conns) bus ⟨ports, []⟩ := by
  rw [scanDevicesAtBus, bridges, scanRoute]
  match scanRpSwitchInternalPortAtBus segment bus rp ⟨ports, []⟩ with
  | none => rfl
  | some (false, s) => rfl
  | some (true, s) => exact scanConns_eq segment ep conns rp.secBus s

/-- What a whole scan that succeeds leaves. -/
theorem scanRoute_eq_true {segment : BitVec 16} {ep : Element} {bridges : List Element}
    {bus : BitVec 8} {ports : ℕ → Port} {s s' : State} (hkeeps : Keeps ports s)
    (h : scanRoute segment ep bridges bus s = some (true, s')) :
    Keeps ports s' ∧ s'.scanned = s.scanned ++ route segment ports ep bridges bus := by
  induction bridges generalizing bus s with
  | nil =>
      rw [scanRoute, scanEndpointAtBus] at h
      split at h
      · rename_i heq
        cases h
        refine ⟨hkeeps.scanElement heq, ?_⟩
        rw [scanElement_eq_true heq, route, hkeeps.placed]
      · cases h
  | cons bridge bridges ih =>
      rw [scanRoute] at h
      cases hscan : scanRpSwitchInternalPortAtBus segment bus bridge s with
      | none => simp [hscan] at h
      | some found =>
          obtain ⟨res, s₁⟩ := found
          cases res with
          | false => simp [hscan] at h
          | true =>
              simp only [hscan] at h
              obtain ⟨hkeeps', hscanned⟩ := ih (hkeeps.scanElement hscan) h
              refine ⟨hkeeps', ?_⟩
              rw [hscanned, scanElement_eq_true hscan, route, List.append_assoc, hkeeps.placed]
              rfl

/-! ## The scan of a group's set-up -/

theorem scanElement_map_fst (accepts : Header → Option Bool) (segment : BitVec 16)
    (bus : BitVec 8) (e : Element) (s : State) :
    (scanElement accepts segment bus e s).map Prod.fst =
      if opens e.space.size then accepts e.space.header else some false := by
  rw [scanElement, opens]
  split
  · rw [Option.map_map]
    exact Option.map_id'
  · rfl

theorem scanRoute_map_fst (segment : BitVec 16) (ep : Element) (bridges : List Element)
    (bus : BitVec 8) (s : State) :
    (scanRoute segment ep bridges bus s).map Prod.fst =
      scanOutcome ep.space (bridges.map Element.space) bus := by
  induction bridges generalizing bus s with
  | nil =>
      have hscan := scanElement_map_fst (fun header => some (headerLayout header == 0)) segment bus
        ep s
      have houtcome : (if opens ep.space.size && headerLayout ep.space.header == 0 then some true
          else none) = (if opens ep.space.size then some (headerLayout ep.space.header == 0)
            else some false).bind fun res => if res then some true else none := by
        cases opens ep.space.size <;> rfl
      rw [scanRoute, scanEndpointAtBus, List.map_nil, scanOutcome, houtcome, ← hscan]
      cases scanElement (fun header => some (headerLayout header == 0)) segment bus ep s with
      | none => rfl
      | some found =>
          obtain ⟨res, s₁⟩ := found
          cases res <;> rfl
  | cons bridge bridges ih =>
      have hscan := scanElement_map_fst (acceptsBridge bus) segment bus bridge s
      rw [← bridgeOutcome] at hscan
      rw [scanRoute, List.map_cons, scanOutcome, ← hscan, scanRpSwitchInternalPortAtBus]
      cases scanElement (acceptsBridge bus) segment bus bridge s with
      | none => rfl
      | some found =>
          obtain ⟨res, s₁⟩ := found
          cases res with
          | false => rfl
          | true => exact ih bridge.secBus s₁

/-- The outcome is that of the scan in which the addresses are left out. -/
theorem scanDevicesAtBus_map_fst (rp ep : Element) (conns : List (Element × Element))
    (segment : BitVec 16) (bus : BitVec 8) (ports : ℕ → Port) :
    (scanDevicesAtBus rp ep conns segment bus ports).map Prod.fst =
      Scan.outcome ⟨bus, rp.space, conns.flatMap fun conn => [conn.1.space, conn.2.space],
        ep.space⟩ := by
  rw [scanDevicesAtBus_eq, scanRoute_map_fst, Scan.outcome, bridges, List.map_cons,
    List.map_flatMap]
  rfl

section Route

variable (segment : BitVec 16) (ports : ℕ → Port) (ep : Element) (bridges : List Element)
  (bus : BitVec 8)

theorem map_fst_route :
    (route segment ports ep bridges bus).map Prod.fst = bridges ++ [ep] := by
  induction bridges generalizing bus with
  | nil => rfl
  | cons bridge bridges ih => rw [route, List.map_cons, ih, List.cons_append]

/-- Every element is on the secondary bus of the element before it. -/
theorem isChain_route :
    (route segment ports ep bridges bus).IsChain fun scan next => next.2.bus = scan.1.secBus := by
  induction bridges generalizing bus with
  | nil => exact List.isChain_singleton _
  | cons bridge bridges ih =>
      have htail := ih bridge.secBus
      cases bridges with
      | nil => exact List.isChain_cons_cons.mpr ⟨rfl, htail⟩
      | cons next bridges => exact List.isChain_cons_cons.mpr ⟨rfl, htail⟩

theorem mem_route {scan : Element × Port} (h : scan ∈ route segment ports ep bridges bus) :
    scan.2.Formatted ∧ scan.2.function = (ports scan.1.port).function := by
  induction bridges generalizing bus with
  | nil =>
      rw [List.mem_singleton.mp h]
      exact ⟨rfl, rfl⟩
  | cons bridge bridges ih =>
      rcases List.mem_cons.mp h with rfl | hmem
      · exact ⟨rfl, rfl⟩
      · exact ih _ hmem

end Route

/-! ## Scans that succeed -/

/-- A bridge between two PCI buses. -/
def IsBridge (header : Header) : Prop := header.baseClass = 6 ∧ header.subClass = 4

/-- What a scan that succeeds is to have found and stored. -/
structure Follows (rp ep : Element) (conns : List (Element × Element)) (s : State) : Prop where
  elements : s.scanned.map Prod.fst = bridges rp conns ++ [ep]
  classes : ∀ scan ∈ s.scanned.dropLast, IsBridge scan.1.space.header
  buses : s.scanned.IsChain fun scan next => next.2.bus = scan.1.secBus
  addresses : ∀ scan ∈ s.scanned, scan.2.Reads ∧ (s.ports scan.1.port).Reads

/-- A scan that succeeds has followed the buses exactly when every port that is no endpoint is a
bridge by both class codes, and no port has a function of two digits. -/
theorem follows_iff {rp ep : Element} {conns : List (Element × Element)} {segment : BitVec 16}
    {bus : BitVec 8} {ports : ℕ → Port} {s : State}
    (h : scanDevicesAtBus rp ep conns segment bus ports = some (true, s)) :
    Follows rp ep conns s ↔
      (∀ bridge ∈ bridges rp conns, IsBridge bridge.space.header) ∧
        ∀ e ∈ bridges rp conns ++ [ep], (ports e.port).function.toNat < 16 := by
  rw [scanDevicesAtBus_eq] at h
  obtain ⟨hkeeps, hscanned⟩ := scanRoute_eq_true (Keeps.start ports) h
  rw [List.nil_append] at hscanned
  have helements := map_fst_route segment ports ep (bridges rp conns) bus
  have hclasses : (∀ scan ∈ s.scanned.dropLast, IsBridge scan.1.space.header) ↔
      ∀ bridge ∈ bridges rp conns, IsBridge bridge.space.header := by
    rw [← List.forall_mem_map (f := Prod.fst) (P := fun e : Element => IsBridge e.space.header),
      List.map_dropLast, hscanned, helements, List.dropLast_concat]
  have hreads : ∀ scan ∈ s.scanned, (scan.2.Reads ∧ (s.ports scan.1.port).Reads) ↔
      (ports scan.1.port).function.toNat < 16 := by
    intro scan hscan
    obtain ⟨hformatted, hfunction⟩ := mem_route _ _ _ _ _ (hscanned ▸ hscan)
    rw [hformatted.reads_iff, (hkeeps.formatted scan hscan).reads_iff, hkeeps.function, hfunction,
      and_self]
  have haddresses : (∀ scan ∈ s.scanned, scan.2.Reads ∧ (s.ports scan.1.port).Reads) ↔
      ∀ e ∈ bridges rp conns ++ [ep], (ports e.port).function.toNat < 16 := by
    rw [← helements, ← hscanned, List.forall_mem_map]
    exact forall₂_congr hreads
  constructor
  · intro hfollows
    exact ⟨hclasses.mp hfollows.classes, haddresses.mp hfollows.addresses⟩
  · intro hcond
    refine ⟨hscanned ▸ helements, hclasses.mpr hcond.1, ?_, haddresses.mpr hcond.2⟩
    rw [hscanned]
    exact isChain_route segment ports ep (bridges rp conns) bus

/-! ## Runs -/

/-- A function with the given class codes on bus 0, with bus 1 behind it. -/
def bridgeWith (baseClass subClass : BitVec 8) : Element where
  port := 0
  space := ⟨some 0x1000, ⟨1, baseClass, subClass, 0, 1, 1⟩⟩

/-- An endpoint. -/
def endpointFunction : Element where
  port := 1
  space := ⟨some 0x1000, ⟨0, 1, 8, 0, 0, 0⟩⟩

def freshPorts : ℕ → Port := fun _ => ⟨⟨0, 0, 2, 0⟩, []⟩

theorem follows_pciBridge : ∃ s,
    scanDevicesAtBus (bridgeWith 6 4) endpointFunction [] 0 0 freshPorts = some (true, s) ∧
      Follows (bridgeWith 6 4) endpointFunction [] s := by
  have hrun : scanDevicesAtBus (bridgeWith 6 4) endpointFunction [] 0 0 freshPorts =
      some (true, _) := rfl
  refine ⟨_, hrun, (follows_iff hrun).mpr ⟨?_, ?_⟩⟩
  · intro bridge hbridge
    rw [List.mem_singleton.mp hbridge]
    exact ⟨rfl, rfl⟩
  · exact fun _ _ => show (0 : ℕ) < 16 by decide

/-- A host bridge, whose sub-class is not 4, is let through. -/
theorem not_follows_hostBridge : ∃ s,
    scanDevicesAtBus (bridgeWith 6 0) endpointFunction [] 0 0 freshPorts = some (true, s) ∧
      ¬Follows (bridgeWith 6 0) endpointFunction [] s := by
  refine ⟨_, rfl, fun h => ?_⟩
  have hclass := (h.classes _ List.mem_cons_self).2
  exact absurd hclass (by decide)

end TeeIoValidator.BusScan
