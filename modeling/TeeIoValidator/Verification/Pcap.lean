import TeeIoValidator.Model.Pcap
import TeeIoValidator.Verification.Doe.Receive

/-! The capture file reads back as the packets that were appended, up to the first write
that failed, as long as no packet is longer than the maximum; the packets are the objects
of the transfers that ended with success. -/

namespace TeeIoValidator.Pcap

/-! ## One write -/

variable (f : Format) (host : Host)

/-- What an operation that writes `data` does to the file: all of it is written, or the
file is closed after a part of it; a closed file stays as it is. -/
structure Appends (data : List Byte) (c c' : Capture) : Prop where
  kept : c.bytes <+: c'.bytes
  bytes_prefix : c'.bytes <+: c.bytes ++ data
  whole : c'.isOpen = true → c.isOpen = true ∧ c'.bytes = c.bytes ++ data
  closed : c.isOpen = false → c'.isOpen = false ∧ c'.bytes = c.bytes

namespace Appends

variable {data more : List Byte} {c c' c'' : Capture}

theorem of_closed (hc : c.isOpen = false) (data : List Byte) : Appends data c c where
  kept := List.prefix_refl _
  bytes_prefix := List.prefix_append ..
  whole := fun h => absurd (hc.symm.trans h) Bool.false_ne_true
  closed := fun h => ⟨h, rfl⟩

protected theorem refl (c : Capture) : Appends [] c c where
  kept := List.prefix_refl _
  bytes_prefix := by rw [List.append_nil]
  whole := fun h => ⟨h, (List.append_nil _).symm⟩
  closed := fun h => ⟨h, rfl⟩

theorem trans (h : Appends data c c') (h' : Appends more c' c'') :
    Appends (data ++ more) c c'' where
  kept := h.kept.trans h'.kept
  bytes_prefix := by
    rw [← List.append_assoc]
    cases hc : c'.isOpen with
    | false =>
        rw [(h'.closed hc).2]
        exact h.bytes_prefix.trans (List.prefix_append ..)
    | true => exact (h.whole hc).2 ▸ h'.bytes_prefix
  whole := fun ho => by
    obtain ⟨hmid, hbytes'⟩ := h'.whole ho
    obtain ⟨hopen, hbytes⟩ := h.whole hmid
    exact ⟨hopen, by rw [hbytes', hbytes, List.append_assoc]⟩
  closed := fun ho => by
    obtain ⟨hmid, hbytes⟩ := h.closed ho
    obtain ⟨hend, hbytes'⟩ := h'.closed hmid
    exact ⟨hend, hbytes'.trans hbytes⟩

/-- What follows a checked write happens only while the file is open. -/
theorem andThen {p : Bool × Capture} (h : Appends data c p.2) (hflag : p.1 = p.2.isOpen)
    (hnext : p.2.isOpen = true → Appends more p.2 c') :
    Appends (data ++ more) c (if !p.1 then p.2 else c') := by
  cases hp : p.1 with
  | false => exact h.trans (of_closed (hflag.symm.trans hp) more)
  | true => exact h.trans (hnext (hflag.symm.trans hp))

end Appends

theorem writeOrClose_appends {c : Capture} (hc : c.isOpen = true) (data : List Byte) :
    Appends data c (writeOrClose host data c).2 ∧
      (writeOrClose host data c).1 = (writeOrClose host data c).2.isOpen := by
  by_cases hshort : host.accepts c.writes < data.length
  · have hmin : min (host.accepts c.writes) data.length = host.accepts c.writes :=
      Nat.min_eq_left (le_of_lt hshort)
    have hwrite : writeOrClose host data c =
        (false, ⟨false, c.bytes ++ data.take (host.accepts c.writes), c.writes + 1,
          c.times⟩) := by
      simp only [writeOrClose, fwrite, hmin, if_pos (Nat.ne_of_lt hshort),
        closePcapPacketFile, hc, if_true]
    rw [hwrite]
    exact ⟨⟨List.prefix_append .., (List.prefix_append_right_inj _).mpr (List.take_prefix _ data),
      fun h => absurd h Bool.false_ne_true,
      fun h => absurd (h.symm.trans hc) Bool.false_ne_true⟩, rfl⟩
  · have hmin : min (host.accepts c.writes) data.length = data.length :=
      Nat.min_eq_right (Nat.not_lt.mp hshort)
    have hwrite : writeOrClose host data c =
        (true, ⟨c.isOpen, c.bytes ++ data, c.writes + 1, c.times⟩) := by
      simp only [writeOrClose, fwrite, hmin, ne_eq, not_true_eq_false, if_false,
        List.take_length]
    rw [hwrite]
    exact ⟨⟨List.prefix_append .., List.prefix_refl _, fun h => ⟨h, rfl⟩,
      fun h => absurd (h.symm.trans hc) Bool.false_ne_true⟩, hc.symm⟩

theorem writeOrClose_times (data : List Byte) (c : Capture) :
    (writeOrClose host data c).2.times = c.times := by
  unfold writeOrClose closePcapPacketFile
  dsimp only [fwrite]
  split
  · dsimp only
    split <;> rfl
  · rfl

/-! ## Packets -/

/-- The header and the data of a packet that is appended at this time. -/
def packetRecord (rawtime : BitVec 32) (packet : List Byte × List Byte) :
    PacketHeader × List Byte :=
  (pcapPacketHeader rawtime (packet.1.length + packet.2.length), packet.1 ++ packet.2)

theorem whole_packetRecord_iff (rawtime : BitVec 32) (packet : List Byte × List Byte) :
    Framing.Whole f.packets (packetRecord rawtime packet) ↔
      packet.1.length + packet.2.length ≤ pcapPacketMaxSize := by
  have hcut : inclLen (packet.1.length + packet.2.length) < 2 ^ 32 := by
    unfold inclLen pcapPacketMaxSize
    split <;> omega
  change (BitVec.ofNat 32 _).toNat = (packet.1 ++ packet.2).length ↔ _
  rw [BitVec.toNat_ofNat, Nat.mod_eq_of_lt hcut, List.length_append]
  unfold inclLen
  split <;> omega

theorem appendPcapPacketData_appends (packet : List Byte × List Byte) (c : Capture) :
    Appends (Framing.record f.packets (packetRecord (host.clock c.times) packet)) c
      (appendPcapPacketData f host packet.1 packet.2 c) := by
  cases hc : c.isOpen with
  | false =>
      rw [appendPcapPacketData, hc]
      exact Appends.of_closed hc _
  | true =>
      let start : Capture := { c with times := c.times + 1 }
      let image := f.packetHeader.write
        (pcapPacketHeader (host.clock c.times) (packet.1.length + packet.2.length))
      have hrecord : Framing.record f.packets (packetRecord (host.clock c.times) packet) =
          image ++ (packet.1 ++ packet.2) := rfl
      have himage := writeOrClose_appends host (c := start) hc image
      have hheader : ∀ c' : Capture, c'.isOpen = true →
          let p := if packet.1.length ≠ 0 then writeOrClose host packet.1 c' else (true, c')
          Appends packet.1 c' p.2 ∧ p.1 = p.2.isOpen := by
        intro c' ho
        by_cases hlen : packet.1.length ≠ 0
        · simp only [if_pos hlen]
          exact writeOrClose_appends host ho packet.1
        · have hnil := List.length_eq_zero_iff.mp (not_not.mp hlen)
          rw [if_neg hlen, hnil]
          exact ⟨Appends.refl c', ho.symm⟩
      have hdata : ∀ c' : Capture, c'.isOpen = true →
          let p := if packet.1.length ≠ 0 then writeOrClose host packet.1 c' else (true, c')
          Appends (packet.1 ++ packet.2) c'
            (if !p.1 then p.2 else (writeOrClose host packet.2 p.2).2) := by
        intro c' ho
        exact (hheader c' ho).1.andThen (hheader c' ho).2 fun ho' =>
          (writeOrClose_appends host ho' packet.2).1
      have hall : Appends (image ++ (packet.1 ++ packet.2)) start
          (appendPcapPacketData f host packet.1 packet.2 c) := by
        rw [appendPcapPacketData, if_pos hc]
        exact himage.1.andThen himage.2 fun ho => hdata _ ho
      rw [hrecord]
      exact ⟨hall.kept, hall.bytes_prefix, hall.whole, hall.closed⟩

/-- A packet that is appended to an open file takes the time once. -/
theorem appendPcapPacketData_times (packet : List Byte × List Byte) {c : Capture}
    (hc : c.isOpen = true) :
    (appendPcapPacketData f host packet.1 packet.2 c).times = c.times + 1 := by
  simp only [appendPcapPacketData, hc, if_true]
  split
  · exact writeOrClose_times ..
  · split
    · split <;> simp only [writeOrClose_times]
    · split <;> simp only [writeOrClose_times]

/-! ## Runs -/

def appendAll (packets : List (List Byte × List Byte)) (c : Capture) : Capture :=
  packets.foldl (fun c packet => appendPcapPacketData f host packet.1 packet.2 c) c

/-- The records of packets that are appended from the `k`-th call of `time` on. -/
def packetRecords : ℕ → List (List Byte × List Byte) → List (PacketHeader × List Byte)
  | _, [] => []
  | k, packet :: packets =>
    packetRecord (host.clock k) packet :: packetRecords (k + 1) packets

theorem whole_packetRecords_iff (packets : List (List Byte × List Byte)) (k : ℕ) :
    (∀ r ∈ packetRecords host k packets, Framing.Whole f.packets r) ↔
      ∀ packet ∈ packets, packet.1.length + packet.2.length ≤ pcapPacketMaxSize := by
  induction packets generalizing k with
  | nil => simp [packetRecords]
  | cons packet packets ih =>
      rw [packetRecords, List.forall_mem_cons, List.forall_mem_cons,
        whole_packetRecord_iff, ih]

theorem appendAll_of_closed (packets : List (List Byte × List Byte)) {c : Capture}
    (hc : c.isOpen = false) : appendAll f host packets c = c := by
  induction packets with
  | nil => rfl
  | cons packet packets ih =>
      have hstep : appendPcapPacketData f host packet.1 packet.2 c = c := by
        rw [appendPcapPacketData, hc]
        rfl
      rw [appendAll, List.foldl_cons, hstep]
      exact ih

theorem appendAll_appends (packets : List (List Byte × List Byte)) (c : Capture) :
    Appends (Framing.stream f.packets (packetRecords host c.times packets)) c
      (appendAll f host packets c) := by
  induction packets generalizing c with
  | nil => exact Appends.refl c
  | cons packet packets ih =>
      let next := appendPcapPacketData f host packet.1 packet.2 c
      have hnext := appendPcapPacketData_appends f host packet c
      have hrun : appendAll f host (packet :: packets) c = appendAll f host packets next := rfl
      rw [hrun, packetRecords, Framing.stream_cons]
      refine hnext.trans ?_
      cases ho : next.isOpen with
      | false =>
          rw [appendAll_of_closed f host packets ho]
          exact Appends.of_closed ho _
      | true =>
          have htimes := appendPcapPacketData_times f host packet (hnext.whole ho).1
          rw [← htimes]
          exact ih next

/-- A file that was opened consists of the global header. -/
theorem openPcapPacketFile_bytes {named : Bool} {transportLayer : BitVec 32} {c : Capture}
    (h : (openPcapPacketFile f host named transportLayer c).1 = true) :
    ∃ network, linkType f transportLayer = some network ∧
      (openPcapPacketFile f host named transportLayer c).2.bytes =
        f.globalHeader.write (pcapGlobalHeader f network) := by
  unfold openPcapPacketFile at h ⊢
  split
  · rename_i hn
    rw [if_pos hn] at h
    exact absurd h Bool.false_ne_true
  · rename_i hn
    rw [if_neg hn] at h
    cases hlink : linkType f transportLayer with
    | none => rw [hlink] at h; exact absurd h Bool.false_ne_true
    | some network =>
        rw [hlink] at h
        dsimp only at h ⊢
        split
        · rename_i ho
          rw [if_pos ho] at h
          exact absurd h Bool.false_ne_true
        · rename_i ho
          rw [if_neg ho] at h
          obtain ⟨happ, hflag⟩ := writeOrClose_appends host
            (c := { c with isOpen := true, bytes := [] }) rfl
            (f.globalHeader.write (pcapGlobalHeader f network))
          exact ⟨network, rfl, (happ.whole (hflag.symm.trans h)).2⟩

/-- The packets that a reader finds in the file after the global header. -/
def packetsIn (c : Capture) : List (PacketHeader × List Byte) :=
  Framing.records f.packets (c.bytes.drop f.globalHeader.width)

/-- What a reader finds in the file: the global header and the packets, none in a file that is
too short for the header. -/
def readBack (c : Capture) : Option (GlobalHeader × List (PacketHeader × List Byte)) :=
  if c.bytes.length < f.globalHeader.width then none
  else some (f.globalHeader.read (c.bytes.take f.globalHeader.width), packetsIn f c)

section

variable {f host} {start : Capture} {header : GlobalHeader}
  (hstart : start.bytes = f.globalHeader.write header) (packets : List (List Byte × List Byte))

include hstart

/-- The global header reads back, whatever is appended. -/
theorem readBack_appendAll : readBack f (appendAll f host packets start) =
    some (header, packetsIn f (appendAll f host packets start)) := by
  obtain ⟨rest, hrest⟩ := (appendAll_appends f host packets start).kept
  have hlength := f.globalHeader.length_write header
  rw [hstart] at hrest
  have htake : (appendAll f host packets start).bytes.take f.globalHeader.width =
      f.globalHeader.write header := by
    rw [← hrest]
    exact List.take_left' hlength
  have hlong : ¬(appendAll f host packets start).bytes.length < f.globalHeader.width := by
    rw [← hrest, List.length_append, hlength]
    exact Nat.not_lt.mpr (Nat.le_add_right _ _)
  rw [readBack, if_neg hlong, htake, f.globalHeader.read_write]

theorem packetsIn_eq_iff (ho : (appendAll f host packets start).isOpen = true) :
    packetsIn f (appendAll f host packets start) = packetRecords host start.times packets ↔
      ∀ packet ∈ packets, packet.1.length + packet.2.length ≤ pcapPacketMaxSize := by
  have happ := appendAll_appends f host packets start
  have hlength : start.bytes.length = f.globalHeader.width :=
    hstart ▸ f.globalHeader.length_write header
  rw [packetsIn, (happ.whole ho).2, List.drop_left' hlength, Framing.records_stream_iff]
  exact whole_packetRecords_iff f host packets start.times

theorem packetsIn_prefix
    (hshort : ∀ packet ∈ packets, packet.1.length + packet.2.length ≤ pcapPacketMaxSize) :
    packetsIn f (appendAll f host packets start) <+:
      packetRecords host start.times packets := by
  have happ := appendAll_appends f host packets start
  have hdrop := happ.bytes_prefix.drop f.globalHeader.width
  have hlength : start.bytes.length = f.globalHeader.width :=
    hstart ▸ f.globalHeader.length_write header
  rw [List.drop_left' hlength] at hdrop
  exact Framing.records_of_prefix f.packets
    ((whole_packetRecords_iff f host packets start.times).mpr hshort) hdrop

end

def toBytes : ℕ → ℕ → List Byte
  | 0, _ => []
  | n + 1, x => BitVec.ofNat 8 x :: toBytes n (x / 256)

def ofBytes : List Byte → ℕ
  | [] => 0
  | b :: bs => b.toNat + 256 * ofBytes bs

@[simp] theorem length_toBytes (n x : ℕ) : (toBytes n x).length = n := by
  induction n generalizing x with
  | zero => rfl
  | succ n ih => exact congrArg (· + 1) (ih _)

theorem ofBytes_toBytes {n x : ℕ} (h : x < 256 ^ n) : ofBytes (toBytes n x) = x := by
  induction n generalizing x with
  | zero => exact (Nat.lt_one_iff.mp h).symm
  | succ n ih =>
      have hdiv : x / 256 < 256 ^ n := Nat.div_lt_of_lt_mul (by rwa [pow_succ'] at h)
      rw [toBytes, ofBytes, ih hdiv, BitVec.toNat_ofNat]
      omega

/-- The value of the next `n` bytes. -/
def field (n : ℕ) (xs : List Byte) : ℕ := ofBytes (xs.take n)

theorem field_append {n x : ℕ} (h : x < 256 ^ n) (xs : List Byte) :
    field n (toBytes n x ++ xs) = x := by
  rw [field, List.take_left' (length_toBytes n x), ofBytes_toBytes h]

theorem drop_toBytes_append (n x : ℕ) (xs : List Byte) :
    (toBytes n x ++ xs).drop n = xs := List.drop_left' (length_toBytes n x)

def packetHeaderImage : Framing.Image PacketHeader Byte where
  width := 16
  width_pos := Nat.succ_pos 15
  write h := toBytes 4 h.tsSec.toNat ++ (toBytes 4 h.tsUsec.toNat ++
    (toBytes 4 h.inclLen.toNat ++ (toBytes 4 h.origLen.toNat ++ [])))
  read xs := ⟨BitVec.ofNat 32 (field 4 xs), BitVec.ofNat 32 (field 4 (xs.drop 4)),
    BitVec.ofNat 32 (field 4 ((xs.drop 4).drop 4)),
    BitVec.ofNat 32 (field 4 (((xs.drop 4).drop 4).drop 4))⟩
  length_write h := by simp only [List.length_append, length_toBytes, List.length_nil]
  read_write h := by
    have hword : ∀ x : BitVec 32, x.toNat < 256 ^ 4 := fun x => x.isLt
    simp only [drop_toBytes_append, field_append (hword _), BitVec.ofNat_toNat,
      BitVec.setWidth_eq]

def globalHeaderImage : Framing.Image GlobalHeader Byte where
  width := 24
  width_pos := Nat.succ_pos 23
  write h := toBytes 4 h.magicNumber.toNat ++ (toBytes 2 h.versionMajor.toNat ++
    (toBytes 2 h.versionMinor.toNat ++ (toBytes 4 h.thisZone.toNat ++
      (toBytes 4 h.sigFigs.toNat ++ (toBytes 4 h.snapLen.toNat ++
        (toBytes 4 h.network.toNat ++ []))))))
  read xs :=
    let xs₁ := xs.drop 4
    let xs₂ := xs₁.drop 2
    let xs₃ := xs₂.drop 2
    let xs₄ := xs₃.drop 4
    let xs₅ := xs₄.drop 4
    ⟨BitVec.ofNat 32 (field 4 xs), BitVec.ofNat 16 (field 2 xs₁),
      BitVec.ofNat 16 (field 2 xs₂), BitVec.ofNat 32 (field 4 xs₃),
      BitVec.ofNat 32 (field 4 xs₄), BitVec.ofNat 32 (field 4 xs₅),
      BitVec.ofNat 32 (field 4 (xs₅.drop 4))⟩
  length_write h := by simp only [List.length_append, length_toBytes, List.length_nil]
  read_write h := by
    have hword : ∀ x : BitVec 32, x.toNat < 256 ^ 4 := fun x => x.isLt
    have hhalf : ∀ x : BitVec 16, x.toNat < 256 ^ 2 := fun x => x.isLt
    simp only [drop_toBytes_append, field_append (hword _), field_append (hhalf _),
      BitVec.ofNat_toNat, BitVec.setWidth_eq]

def littleEndianFormat : Format where
  magic := 0xa1b2c3d4
  versionMajor := 2
  versionMinor := 4
  linktypeMctp := 291
  linktypePciDoe := 292
  transportMctp := 1
  transportPciDoe := 2
  globalHeader := globalHeaderImage
  packetHeader := packetHeaderImage

/-- A host whose disk is full after the fifth write. -/
def fillingHost : Host := ⟨true, fun k => if k < 5 then 100 else 0, fun k => BitVec.ofNat 32 k⟩

section

variable (dev : Doe.Instance) (lengthOf : Doe.Dword → Doe.Dword)

inductive Transfer where
  | send (request : Option (List Doe.Dword)) (timeout : ℕ)
  | receive (response : Option Doe.Response)

/-- The transfer as the capture sees it: what it hands over, and the state after it. -/
def Transfer.run : Transfer → Doe.State → Option (List Byte) × Doe.State
  | send request timeout, s =>
    let (status, s) := Doe.deviceDoeSendMessage dev request timeout s
    (capturedBytes status (request.map requestBytes), s)
  | receive response, s =>
    let (status, response, s) := Doe.deviceDoeReceiveMessage dev lengthOf response s
    (capturedBytes status (response.map responseBytes), s)

def Transfer.runCaptured : Transfer → Doe.State × Capture → Doe.State × Capture
  | send request timeout, p => (sendCaptured f host dev request timeout p.1 p.2).2
  | receive response, p => (receiveCaptured f host dev lengthOf response p.1 p.2).2.2

/-- The objects of the transfers of a session that end with success, in order. -/
def objects : List Transfer → Doe.State → List (List Byte)
  | [], _ => []
  | t :: ts, s =>
    (t.run dev lengthOf s).1.toList ++ objects ts (t.run dev lengthOf s).2

def runSession (ts : List Transfer) (p : Doe.State × Capture) : Doe.State × Capture :=
  ts.foldl (fun p t => t.runCaptured f host dev lengthOf p) p

/-- The buffer of the transfer is not longer than a packet may be. -/
def Transfer.Fits : Transfer → Prop
  | send request _ => ∀ words ∈ request, 4 * words.length ≤ pcapPacketMaxSize
  | receive response => ∀ r ∈ response, r.size ≤ pcapPacketMaxSize

@[simp] theorem length_objectBytes (words : ℕ → Doe.Dword) (size : ℕ) :
    (objectBytes words size).length = size := by
  rw [objectBytes, List.length_map, List.length_range]

theorem Transfer.runCaptured_eq (t : Transfer) (p : Doe.State × Capture) :
    t.runCaptured f host dev lengthOf p =
      ((t.run dev lengthOf p.1).2,
        appendAll f host ((t.run dev lengthOf p.1).1.toList.map ([], ·)) p.2) := by
  cases t with
  | send request timeout =>
      simp only [runCaptured, sendCaptured, captureTransfer, run]
      cases capturedBytes _ (request.map requestBytes) <;> rfl
  | receive response =>
      simp only [runCaptured, receiveCaptured, captureTransfer, run]
      cases capturedBytes _ (Option.map responseBytes _) <;> rfl

theorem appendAll_append (ps qs : List (List Byte × List Byte)) (c : Capture) :
    appendAll f host (ps ++ qs) c = appendAll f host qs (appendAll f host ps c) :=
  List.foldl_append

/-- A session appends the objects of its successful transfers and nothing else. -/
theorem runSession_capture (ts : List Transfer) (s : Doe.State) (c : Capture) :
    (runSession f host dev lengthOf ts (s, c)).2 =
      appendAll f host ((objects dev lengthOf ts s).map ([], ·)) c := by
  induction ts generalizing s c with
  | nil => rfl
  | cons t ts ih =>
      rw [runSession, List.foldl_cons, t.runCaptured_eq, objects, List.map_append,
        appendAll_append]
      exact ih _ _

/-- A response is not longer than its buffer was when the transfer succeeds. -/
theorem deviceDoeReceiveMessage_size {response response' : Option Doe.Response}
    {s s' : Doe.State} {bound : ℕ} (hfits : ∀ r ∈ response, r.size ≤ bound)
    (h : Doe.deviceDoeReceiveMessage dev lengthOf response s = (.success, response', s')) :
    ∀ r ∈ response', r.size ≤ bound := by
  cases response with
  | none => simp [Doe.deviceDoeReceiveMessage] at h
  | some r =>
      have hr := hfits r rfl
      by_cases hcap : r.size < 8
      · simp [Doe.deviceDoeReceiveMessage, hcap] at h
      · rw [Doe.deviceDoeReceiveMessage_eq dev lengthOf r s (Nat.not_lt.mp hcap)] at h
        split at h
        · unfold Doe.receiveAt at h
          dsimp only at h
          split at h
          · cases h
          · rename_i hsize
            obtain ⟨-, rfl⟩ : _ ∧ _ = response' :=
              ⟨(Prod.mk.inj h).1, (Prod.mk.inj (Prod.mk.inj h).2).1⟩
            intro r' hr'
            obtain rfl := Option.some.inj hr'
            exact (Nat.not_lt.mp hsize).trans hr
        · obtain rfl := (Prod.mk.inj (Prod.mk.inj h).2).1
          intro r' hr'
          obtain rfl := Option.some.inj hr'
          exact hr
        · cases h

theorem Transfer.length_run_le {t : Transfer} (ht : t.Fits) (s : Doe.State) :
    ∀ data ∈ (t.run dev lengthOf s).1, data.length ≤ pcapPacketMaxSize := by
  intro data hdata
  cases t with
  | send request timeout =>
      simp only [run, capturedBytes] at hdata
      split at hdata
      · obtain ⟨words, hwords, rfl⟩ := Option.map_eq_some_iff.mp hdata
        rw [requestBytes, length_objectBytes]
        exact ht words hwords
      · cases hdata
  | receive response =>
      simp only [run, capturedBytes] at hdata
      split at hdata
      · rename_i hsuccess
        obtain ⟨r, hr, rfl⟩ := Option.map_eq_some_iff.mp hdata
        rw [responseBytes, length_objectBytes]
        exact deviceDoeReceiveMessage_size dev lengthOf ht
          (Prod.ext hsuccess rfl) r hr
      · cases hdata

theorem length_objects_le {ts : List Transfer} (hts : ∀ t ∈ ts, t.Fits) (s : Doe.State) :
    ∀ data ∈ objects dev lengthOf ts s, data.length ≤ pcapPacketMaxSize := by
  induction ts generalizing s with
  | nil => intro data hdata; cases hdata
  | cons t ts ih =>
      rw [objects, List.forall_mem_append]
      refine ⟨fun data hdata => ?_, ih (fun u hu => hts u (List.mem_cons_of_mem t hu)) _⟩
      exact t.length_run_le dev lengthOf (hts t List.mem_cons_self) s data
        (Option.mem_toList.mp hdata)

theorem packetRecords_snd (packets : List (List Byte × List Byte)) (k : ℕ) :
    (packetRecords host k packets).map Prod.snd = packets.map fun p => p.1 ++ p.2 := by
  induction packets generalizing k with
  | nil => rfl
  | cons packet packets ih => exact congrArg (_ :: ·) (ih (k + 1))

end

end TeeIoValidator.Pcap
