import TeeIoValidator.Model.CxlIdeKm
import TeeIoValidator.Verification.CxlIde

/-! # The verdicts of the CXL_IDE_KM cases -/

namespace TeeIoValidator.CxlIdeKm

/-- Two sequences of blocks with the same members have the same blocks, where a block that differs
has another length only with another first member. -/
theorem flatMap_eq_flatMap_iff {α β : Type*} {f g : α → List β} {xs : List α}
    (h : ∀ x ∈ xs, (f x).length = (g x).length ∨
      ∃ a b as bs, f x = a :: as ∧ g x = b :: bs ∧ a ≠ b) :
    xs.flatMap f = xs.flatMap g ↔ ∀ x ∈ xs, f x = g x := by
  induction xs with
  | nil => simp
  | cons x xs ih =>
      rw [List.forall_mem_cons] at h ⊢
      rw [List.flatMap_cons, List.flatMap_cons, ← ih h.2]
      constructor
      · intro heq
        rcases h.1 with hlength | ⟨a, b, as, bs, ha, hb, hne⟩
        · exact List.append_inj heq hlength
        · rw [ha, hb] at heq
          exact absurd (List.head_eq_of_cons_eq heq) hne
      · rintro ⟨hx, hxs⟩
        rw [hx, hxs]

/-! ## What is documented -/

section Documented

variable (lib : CxlIdeKmMessages) (env : Environment)

/-- `SubStream` of `key_sub_stream`. -/
def subStreamMask : BitVec 8 := 0xf0

/-- A response that is sent, judged by its size and, with it, by its fields. -/
def documentedResponse (size : ℕ) (rows : (ℕ → BitVec 8) → List (ℕ × Bool)) (reply : Reply) :
    List (ℕ × Bool) :=
  if reply.error then []
  else (1, reply.size == size) :: if reply.size == size then rows reply.buffer else []

/-- Assertions 1.1.1 to 1.1.6, and those of case 1.2. -/
def documentedQuery (request : Request) : Reply → List (ℕ × Bool) :=
  documentedResponse queryRespSize fun buffer =>
    [(2, buffer 0 == lib.queryResp),
      (3, buffer 2 == request.portIndex),
      (4, decide (request.portIndex ≤ buffer 6)),
      (5, buffer 3 == env.port.devFunc && buffer 4 == env.port.bus &&
        buffer 5 == env.port.segment),
      (6, (buffer 7).extractLsb' 0 4 == 1)]

/-- The port and the stream of the request, and the fields of its `key_sub_stream` in a mask. -/
def documentedStream (number : ℕ) (mask : BitVec 8) (request : Request) (buffer : ℕ → BitVec 8) :
    List (ℕ × Bool) :=
  [(number, buffer 6 == request.portIndex),
    (number + 1, buffer 3 == request.streamId),
    (number + 2, buffer 5 &&& mask == request.keySubStream &&& mask)]

/-- `RxTx` and `SubStream`. -/
def directionMasks : BitVec 8 := lib.directionMask ||| subStreamMask

/-- The assertions of the cases 2.1 to 2.9. -/
def documentedKpAck (status : BitVec 8) (request : Request) : Reply → List (ℕ × Bool) :=
  documentedResponse kpAckSize fun buffer =>
    [(2, buffer 0 == lib.kpAck), (3, buffer 4 == status)] ++
      documentedStream 4 (directionMasks lib) request buffer

/-- The assertions of the cases 3.1 and 4.1. -/
def documentedGostopAck (request : Request) : Reply → List (ℕ × Bool) :=
  documentedResponse kSetGostopAckSize fun buffer =>
    (2, buffer 0 == lib.kSetGostopAck) :: documentedStream 3 (directionMasks lib) request buffer

/-- The assertions of case 5.1. -/
def documentedGetKeyAck (request : Request) : Reply → List (ℕ × Bool) :=
  documentedResponse getKeyAckSize fun buffer =>
    (2, buffer 0 == lib.getKeyAck) :: documentedStream 3 subStreamMask request buffer

def documented : Case → Request → Reply → List (ℕ × Bool)
  | .query1 | .query2 => documentedQuery lib env
  | .keyProg1 => documentedKpAck lib 0x0
  | .keyProg2 | .keyProg3 | .keyProg4 | .keyProg5 | .keyProg6 | .keyProg7 | .keyProg8 |
    .keyProg9 => documentedKpAck lib 0x1
  | .ksetGo1 | .ksetStop1 => documentedGostopAck lib
  | .getKey1 => documentedGetKeyAck lib

/-- The requests of a case that are sent, with their responses. -/
def exchanges (case : Case) : List (Request × Reply) :=
  (rounds lib env case).zipIdx.flatMap fun (round, n) =>
    match if round.prepares then env.preparationError n else none with
    | some _ => []
    | none => round.requests.zipIdx.map fun ((_, request), k) => (request, env.replies n k)

/-- Two responses of which the host receives the same. -/
structure SameReceived (reply other : Reply) : Prop where
  error : other.error = reply.error
  status : other.status = reply.status
  size : other.size = reply.size
  buffer : ∀ i < reply.size, other.buffer i = reply.buffer i

/-- The responses are judged as documented, and by what is received of them. -/
structure JudgesCase (case : Case) : Prop where
  verdicts : verdicts (runCase lib env case) =
    (exchanges lib env case).flatMap fun e => documented lib env case e.1 e.2
  received : ∀ replies, (∀ n k, SameReceived (env.replies n k) (replies n k)) →
    runCase lib { env with replies := replies } case = runCase lib env case

/-- The bits of `key_sub_stream` that the documentation of a case looks at, and the size. -/
def acknowledgement : Case → Option (BitVec 8 × ℕ)
  | .query1 | .query2 => none
  | .keyProg1 | .keyProg2 | .keyProg3 | .keyProg4 | .keyProg5 | .keyProg6 | .keyProg7 |
    .keyProg8 | .keyProg9 => some (directionMasks lib, kpAckSize)
  | .ksetGo1 | .ksetStop1 => some (directionMasks lib, kSetGostopAckSize)
  | .getKey1 => some (subStreamMask, getKeyAckSize)

/-- A response that echoes the whole of `key_sub_stream` when it echoes what is documented; no
response to a `QUERY`. -/
def Echoes (case : Case) (request : Request) (reply : Reply) : Prop :=
  ∃ mask size, acknowledgement lib case = some (mask, size) ∧ (reply.size = size →
    reply.buffer 5 &&& mask = request.keySubStream &&& mask →
      reply.buffer 5 = request.keySubStream)

/-- The acknowledgement of a case is judged as documented but for the last of its assertions. -/
structure JudgesAck (case : Case) (request : Request) (mask : BitVec 8) (size number : ℕ)
    (rows : (ℕ → BitVec 8) → List (ℕ × Bool)) : Prop where
  recorded : ∀ reply, verdicts (validate lib env case request reply) =
    documentedResponse size
      (fun buffer => rows buffer ++ [(number, buffer 5 == request.keySubStream)]) reply
  expected : documented lib env case request =
    documentedResponse size
      fun buffer => rows buffer ++ [(number, buffer 5 &&& mask == request.keySubStream &&& mask)]

end Documented

variable {lib : CxlIdeKmMessages} {env : Environment}

/-! ## One response -/

theorem verdicts_checkResponse (res : ℕ → Bool) (checks : (ℕ → BitVec 8) → List Assertion)
    (reply : Reply) :
    verdicts (checkResponse res checks reply) =
      if reply.error then []
      else (1, res reply.size) ::
        if res reply.size then verdicts (checks reply.buffer) else [] := by
  rw [checkResponse]
  cases reply.error with
  | true => simp
  | false =>
      cases res reply.size with
      | false => simp
      | true => simp

theorem checkKpAck_verdicts (status : BitVec 8) (request : Request) (reply : Reply) :
    verdicts (checkKpAck lib status request reply) =
      documentedResponse kpAckSize (fun buffer =>
        [(2, buffer 0 == lib.kpAck), (3, buffer 4 == status), (4, buffer 6 == request.portIndex),
          (5, buffer 3 == request.streamId)] ++ [(6, buffer 5 == request.keySubStream)]) reply := by
  rw [checkKpAck, verdicts_checkResponse, documentedResponse]
  simp only [checkObjectId, checkStream, verdicts_check, verdicts_nil, List.cons_append,
    List.nil_append]

/-- `K_GOSTOP_ACK` and `GETKEY_ACK`. -/
theorem checkAck_verdicts (size : ℕ) (objectId : BitVec 8) (request : Request) (reply : Reply) :
    verdicts (checkResponse (· == size)
        (fun buffer => checkObjectId objectId buffer :: checkStream 3 request buffer) reply) =
      documentedResponse size (fun buffer =>
        [(2, buffer 0 == objectId), (3, buffer 6 == request.portIndex),
          (4, buffer 3 == request.streamId)] ++ [(5, buffer 5 == request.keySubStream)]) reply := by
  rw [verdicts_checkResponse, documentedResponse]
  simp only [checkObjectId, checkStream, verdicts_check, verdicts_nil, List.cons_append,
    List.nil_append]

variable (env) in
theorem exists_judgesAck {case : Case} {mask : BitVec 8} {size : ℕ}
    (hcase : acknowledgement lib case = some (mask, size)) (request : Request) :
    ∃ number rows, JudgesAck lib env case request mask size number rows := by
  cases case with
  | query1 => cases hcase
  | query2 => cases hcase
  | keyProg1 =>
      cases hcase
      exact ⟨6, _, checkKpAck_verdicts kpAckStatusSuccess request, rfl⟩
  | ksetGo1 =>
      cases hcase
      exact ⟨5, _, checkAck_verdicts kSetGostopAckSize lib.kSetGostopAck request, rfl⟩
  | ksetStop1 =>
      cases hcase
      exact ⟨5, _, checkAck_verdicts kSetGostopAckSize lib.kSetGostopAck request, rfl⟩
  | getKey1 =>
      cases hcase
      exact ⟨5, _, checkAck_verdicts getKeyAckSize lib.getKeyAck request, rfl⟩
  | _ =>
      cases hcase
      exact ⟨6, _, checkKpAck_verdicts kpAckStatusInvalid request, rfl⟩

theorem beq_eq_masked_beq_iff (a b mask : BitVec 8) :
    ((a == b) = (a &&& mask == b &&& mask)) ↔ (a &&& mask = b &&& mask → a = b) := by
  rw [Bool.eq_iff_iff, beq_iff_eq, beq_iff_eq]
  exact ⟨Iff.mpr, fun h => ⟨fun hab => hab ▸ rfl, h⟩⟩

theorem documentedResponse_length {size : ℕ} {rows rows' : (ℕ → BitVec 8) → List (ℕ × Bool)}
    (h : ∀ buffer, (rows buffer).length = (rows' buffer).length) (reply : Reply) :
    (documentedResponse size rows reply).length = (documentedResponse size rows' reply).length := by
  rw [documentedResponse, documentedResponse]
  split_ifs
  · rfl
  · simp [h]
  · rfl

/-- An acknowledgement is judged as documented when the echo is whole. -/
theorem JudgesAck.verdicts_eq_iff {case : Case} {request : Request} {mask : BitVec 8}
    {size number : ℕ} {rows : (ℕ → BitVec 8) → List (ℕ × Bool)}
    (h : JudgesAck lib env case request mask size number rows) {reply : Reply}
    (hreceived : reply.error = false) :
    verdicts (validate lib env case request reply) = documented lib env case request reply ↔
      (reply.size = size → reply.buffer 5 &&& mask = request.keySubStream &&& mask →
        reply.buffer 5 = request.keySubStream) := by
  rw [h.recorded, h.expected, documentedResponse, documentedResponse, hreceived]
  by_cases hsize : reply.size = size
  · simp only [Bool.false_eq_true, if_false, hsize, beq_self_eq_true, if_true, List.cons.injEq,
      true_and, List.append_cancel_left_eq, Prod.mk.injEq, and_true, forall_const,
      beq_eq_masked_beq_iff]
  · simp [hsize]

variable (env) in
theorem query_of_acknowledgement_none {case : Case} (hcase : acknowledgement lib case = none) :
    validate lib env case = testCxlIdeQuery lib env.port ∧
      documented lib env case = documentedQuery lib env := by
  cases case with
  | query1 => exact ⟨rfl, rfl⟩
  | query2 => exact ⟨rfl, rfl⟩
  | _ => cases hcase

/-- Without a response nothing that has a number is recorded. -/
theorem verdicts_validate_of_error {case : Case} {request : Request} {reply : Reply}
    (herror : reply.error = true) :
    verdicts (validate lib env case request reply) = documented lib env case request reply := by
  cases hcase : acknowledgement lib case with
  | none =>
      obtain ⟨hvalidate, hdocumented⟩ := query_of_acknowledgement_none env hcase
      rw [hvalidate, hdocumented, testCxlIdeQuery, verdicts_checkResponse, if_pos herror,
        documentedQuery, documentedResponse, if_pos herror]
  | some ack =>
      obtain ⟨number, rows, h⟩ := exists_judgesAck env hcase request
      rw [h.recorded, h.expected, documentedResponse, if_pos herror, documentedResponse,
        if_pos herror]

/-- The verdicts on a response are as documented when it echoes its request. -/
theorem verdicts_validate_iff {case : Case} {request : Request} {reply : Reply}
    (hreceived : reply.error = false) :
    verdicts (validate lib env case request reply) = documented lib env case request reply ↔
      Echoes lib case request reply := by
  cases hcase : acknowledgement lib case with
  | none =>
      obtain ⟨hvalidate, hdocumented⟩ := query_of_acknowledgement_none env hcase
      refine iff_of_false (fun heq => ?_) fun ⟨mask, size, hack, _⟩ => ?_
      · rw [hvalidate, hdocumented, testCxlIdeQuery, verdicts_checkResponse, hreceived,
          documentedQuery, documentedResponse, hreceived] at heq
        have hfirst := congrArg Prod.snd (List.head_eq_of_cons_eq heq)
        by_cases hsize : reply.size = queryRespSize
        · simp [hsize] at hfirst
        · simp [hsize] at hfirst
      · rw [hcase] at hack
        cases hack
  | some ack =>
      obtain ⟨number, rows, h⟩ := exists_judgesAck env hcase request
      rw [h.verdicts_eq_iff hreceived]
      constructor
      · intro hecho
        exact ⟨ack.1, ack.2, hcase, hecho⟩
      · rintro ⟨mask, size, hack, hecho⟩
        rw [hcase] at hack
        cases hack
        exact hecho

/-- Verdicts that are not as documented differ in the first, or are as many. -/
theorem verdicts_validate_comparable (case : Case) (request : Request) (reply : Reply) :
    (verdicts (validate lib env case request reply)).length =
        (documented lib env case request reply).length ∨
      ∃ a b as bs, verdicts (validate lib env case request reply) = a :: as ∧
        documented lib env case request reply = b :: bs ∧ a ≠ b := by
  cases hcase : acknowledgement lib case with
  | none =>
      obtain ⟨hvalidate, hdocumented⟩ := query_of_acknowledgement_none env hcase
      cases herror : reply.error with
      | true => exact Or.inl (congrArg List.length (verdicts_validate_of_error herror))
      | false =>
          rw [hvalidate, hdocumented, testCxlIdeQuery, verdicts_checkResponse, herror,
            documentedQuery, documentedResponse, herror]
          refine Or.inr ⟨_, _, _, _, rfl, rfl, fun h => ?_⟩
          have hfirst := congrArg Prod.snd h
          by_cases hsize : reply.size = queryRespSize
          · simp [hsize] at hfirst
          · simp [hsize] at hfirst
  | some ack =>
      obtain ⟨number, rows, h⟩ := exists_judgesAck env hcase request
      rw [h.recorded, h.expected]
      exact Or.inl (documentedResponse_length (fun buffer => by simp) reply)

/-! ## What is read of a response -/

theorem checkResponse_congr {size : ℕ} {checks : (ℕ → BitVec 8) → List Assertion}
    (hchecks : ∀ b b' : ℕ → BitVec 8, (∀ i < size, b' i = b i) → checks b' = checks b)
    {reply other : Reply} (h : SameReceived reply other) :
    checkResponse (· == size) checks other = checkResponse (· == size) checks reply := by
  rw [checkResponse, checkResponse, h.error, h.status, h.size]
  by_cases hsize : reply.size = size
  · rw [hchecks reply.buffer other.buffer fun i hi => h.buffer i (hsize ▸ hi)]
  · simp [hsize]

theorem checkStream_congr {number : ℕ} {request : Request} {b b' : ℕ → BitVec 8}
    (h : ∀ i < 7, b' i = b i) : checkStream number request b' = checkStream number request b := by
  rw [checkStream, checkStream, h 3 (by decide), h 5 (by decide), h 6 (by decide)]

theorem checkObjectId_congr {objectId : BitVec 8} {b b' : ℕ → BitVec 8} (h : b' 0 = b 0) :
    checkObjectId objectId b' = checkObjectId objectId b := by
  rw [checkObjectId, checkObjectId, h]

theorem checkKpAck_congr {status : BitVec 8} {request : Request} {reply other : Reply}
    (h : SameReceived reply other) :
    checkKpAck lib status request other = checkKpAck lib status request reply := by
  refine checkResponse_congr (fun b b' hb => ?_) h
  rw [checkObjectId_congr (hb 0 (by decide)), hb 4 (by decide), checkStream_congr hb]

theorem checkAck_congr {size : ℕ} (hsize : 7 ≤ size) {objectId : BitVec 8} {request : Request}
    {reply other : Reply} (h : SameReceived reply other) :
    checkResponse (· == size)
        (fun buffer => checkObjectId objectId buffer :: checkStream 3 request buffer) other =
      checkResponse (· == size)
        (fun buffer => checkObjectId objectId buffer :: checkStream 3 request buffer) reply := by
  refine checkResponse_congr (fun b b' hb => ?_) h
  rw [checkObjectId_congr (hb 0 (by omega)), checkStream_congr fun i hi => hb i (by omega)]

theorem validate_of_error {case : Case} {request : Request} {reply : Reply}
    (herror : reply.error = true) :
    validate lib env case request reply =
      [.check 0 false "cxl_ide_km_send_receive_data failed with 0x%x" [reply.status]] := by
  cases case with
  | _ => exact if_pos herror

/-- Only what is received of an acknowledgement is read. -/
theorem validate_congr {case : Case} {request : Request} {reply other : Reply}
    (h : SameReceived reply other)
    (hread : reply.error = true ∨ acknowledgement lib case ≠ none) :
    validate lib env case request other = validate lib env case request reply := by
  rcases hread with herror | hcase
  · rw [validate_of_error herror, validate_of_error (h.error.trans herror), h.status]
  · cases case with
    | query1 => exact absurd rfl hcase
    | query2 => exact absurd rfl hcase
    | ksetGo1 => exact checkAck_congr (by decide) h
    | ksetStop1 => exact checkAck_congr (by decide) h
    | getKey1 => exact checkAck_congr (by decide) h
    | _ => exact checkKpAck_congr h

/-! ## The run of a case -/

theorem verdicts_flatMap {α : Type*} (xs : List α) (f : α → List Assertion) :
    verdicts (xs.flatMap f) = xs.flatMap fun x => verdicts (f x) := by
  induction xs with
  | nil => rfl
  | cons x xs ih => rw [List.flatMap_cons, List.flatMap_cons, verdicts_append, ih]

theorem verdicts_separators_append (values : List ℕ) (info : Option String)
    (as : List Assertion) : verdicts (separators values info ++ as) = verdicts as := by
  cases info with
  | none => rfl
  | some format => rfl

/-- A run records the verdicts on the responses one after the other. -/
theorem verdicts_runCase (case : Case) : verdicts (runCase lib env case) =
    (exchanges lib env case).flatMap fun e => verdicts (validate lib env case e.1 e.2) := by
  rw [runCase, exchanges, verdicts_flatMap, List.flatMap_assoc]
  refine List.flatMap_congr fun ⟨round, n⟩ _ => ?_
  dsimp only [runRound]
  cases if round.prepares then env.preparationError n else none with
  | some error => rw [verdicts_separators_append]; rfl
  | none =>
      rw [verdicts_flatMap, List.flatMap_map]
      exact List.flatMap_congr fun ⟨⟨format, request⟩, k⟩ _ =>
        verdicts_separators_append round.values format _

/-- A case that reads only what it receives runs the same whatever was on the stack. -/
theorem runCase_congr {case : Case} {replies : ℕ → ℕ → Reply}
    (h : ∀ n k, SameReceived (env.replies n k) (replies n k))
    (hread : ∀ e ∈ exchanges lib env case, e.2.error = true ∨ acknowledgement lib case ≠ none) :
    runCase lib { env with replies := replies } case = runCase lib env case := by
  have hrounds : rounds lib { env with replies := replies } case = rounds lib env case := by
    cases case with
    | _ => rfl
  have hvalidate : validate lib { env with replies := replies } case = validate lib env case := by
    cases case with
    | _ => rfl
  rw [runCase, runCase, hrounds]
  refine List.flatMap_congr fun ⟨round, n⟩ hround => ?_
  dsimp only [runRound]
  rw [hvalidate]
  cases hprepared : if round.prepares then env.preparationError n else none with
  | some error => rfl
  | none =>
      refine List.flatMap_congr fun ⟨⟨format, request⟩, k⟩ hrequest => ?_
      refine congrArg (separators round.values format ++ ·) (validate_congr (h n k) ?_)
      refine hread (request, env.replies n k) (List.mem_flatMap.mpr ⟨_, hround, ?_⟩)
      dsimp only
      rw [hprepared]
      exact List.mem_map.mpr ⟨_, hrequest, rfl⟩

/-- When a case judges its responses as documented, and by what it receives. -/
theorem judgesCase_iff (lib : CxlIdeKmMessages) (env : Environment) (case : Case) :
    JudgesCase lib env case ↔ ∀ e ∈ exchanges lib env case, e.2.error = false →
      Echoes lib case e.1 e.2 := by
  have hverdicts : verdicts (runCase lib env case) =
      (exchanges lib env case).flatMap (fun e => documented lib env case e.1 e.2) ↔
      ∀ e ∈ exchanges lib env case, e.2.error = false → Echoes lib case e.1 e.2 := by
    rw [verdicts_runCase,
      flatMap_eq_flatMap_iff fun e _ => verdicts_validate_comparable case e.1 e.2]
    refine forall₂_congr fun e _ => ?_
    cases herror : e.2.error with
    | true => exact iff_of_true (verdicts_validate_of_error herror) (fun h => nomatch h)
    | false => rw [verdicts_validate_iff herror, eq_self, true_imp_iff]
  rw [← hverdicts]
  refine ⟨JudgesCase.verdicts, fun h => ⟨h, fun replies hsame => runCase_congr hsame ?_⟩⟩
  intro e he
  cases herror : e.2.error with
  | true => exact Or.inl rfl
  | false =>
      obtain ⟨mask, size, hack, -⟩ := hverdicts.mp h e he herror
      exact Or.inr fun hnone => Option.some_ne_none _ (hack.symm.trans hnone)

def exampleMessages : CxlIdeKmMessages where
  toCxlIdeKmLib := CxlIde.cxlIdeKm
  queryResp := 0x01
  kpAck := 0x03
  kSetGostopAck := 0x06
  getKeyAck := 0x08

/-- A device that answers with the first three bytes of a `QUERY_RESP`. -/
def shortResponder : Environment where
  port := ⟨0, 0x3a, 0⟩
  maxPortIndex := 0
  queriedMaxPortIndex := 0
  devCaps _ := 0x1
  modeEnabled _ _ := true
  preparationError _ := none
  replies _ _ := ⟨false, 0, 3, fun i => if i = 0 then 0x01 else 0⟩

/-- The size of a response that is too short passes. -/
theorem not_judgesCase_query1 : ¬JudgesCase exampleMessages shortResponder .query1 := by
  intro h
  have hverdicts := h.verdicts
  revert hverdicts
  decide

end TeeIoValidator.CxlIdeKm
