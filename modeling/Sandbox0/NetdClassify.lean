-- How `netd/pkg/proxy` classifies a TCP connection. Nine classifiers and a fallback
-- are asked in order about the bytes that have come so far; while none of them
-- settles it, more bytes are read, up to the header limit.
import Sandbox0.NetdProxy
import Sandbox0.StreamPeek

namespace sandbox0.netd.proxy

open sandbox0.net Peek List Nat

/-! ## HTTP -/

/-- `http.ReadRequest`: the host of the request, or nothing when it is malformed. What comes
behind an empty line is not read. -/
structure RequestReader where
  readRequest : List UInt8 → Option GoString
  stops : ∀ head rest, lit "\n\n" <:+ head → readRequest (head ++ rest) = readRequest head

def isMethodByte (b : UInt8) : Bool := (65 ≤ b ∧ b ≤ 90) ∨ b ∈ lit "!#$%&'*+-.^_`|~"

def isHTTPMethodToken (method : GoString) : Bool := method ≠ [] ∧ method.all isMethodByte

def firstLine (data : List UInt8) : GoString :=
  match indexOf (lit "\n") data with
  | some i => data.take i
  | none => data

/-- `bytes.TrimRight(line, "\r")`. -/
def trimReturns (line : GoString) : GoString := (line.reverse.dropWhile (· = 13)).reverse

/-- `bytes.SplitN(line, []byte(" "), 3)`. -/
def splitInThree (line : GoString) : List GoString :=
  match indexOf (lit " ") line with
  | none => [line]
  | some i =>
    match indexOf (lit " ") (line.drop (i + 1)) with
    | none => [line.take i, line.drop (i + 1)]
    | some j => [line.take i, (line.drop (i + 1)).take j, (line.drop (i + 1)).drop (j + 1)]

/-- Whether a request line may begin like this. A cut inside `HTTP/` is not seen as one. -/
def isRequestLine (line : GoString) : Bool :=
  match splitInThree line with
  | [method] => isHTTPMethodToken method
  | [method, target] => isHTTPMethodToken method ∧ target ≠ []
  | [method, target, proto] => isHTTPMethodToken method ∧ target ≠ [] ∧ lit "HTTP/" <+: proto
  | _ => false

def looksLikeHTTPRequestPrefix (data : List UInt8) : Bool :=
  data ≠ [] ∧ isRequestLine (trimReturns (firstLine data))

def findHTTPHeaderTerminator (data : List UInt8) : Option Nat :=
  match indexOf (lit "\r\n\r\n") data with
  | some i => some (i + 4)
  | none => (indexOf (lit "\n\n") data).map (· + 2)

def parseHTTPRequest (http : RequestReader) (limit : Nat) : Peek GoString := fun data complete =>
  if data = [] then wait data complete
  else if looksLikeHTTPRequestPrefix data = false then .noMatch
  else
    match findHTTPHeaderTerminator data with
    | none => if complete = false ∧ data.length < limit then .needMore else .noMatch
    | some headerEnd =>
      match http.readRequest (data.take headerEnd) with
      | none => .noMatch
      | some host => .matched host

/-! ## TLS -/

def tlsServerNames (listEnd offset : Nat) : Peek GoString :=
  if offset + 3 ≤ listEnd then do
    let nameType ← byteAt offset
    let nameLen ← uint16At (offset + 1)
    if offset + 3 + nameLen > listEnd then wait
    else if nameType = 0 then bytesAt (offset + 3) nameLen
    else tlsServerNames listEnd (offset + 3 + nameLen)
  else pure []
termination_by listEnd - offset

def tlsExtensions (stop offset : Nat) : Peek GoString :=
  if offset + 4 ≤ stop then do
    let extType ← uint16At offset
    let extSize ← uint16At (offset + 2)
    if offset + 4 + extSize > stop then wait
    else if extType ≠ 0 then tlsExtensions stop (offset + 4 + extSize)
    else do
      waitIf (offset + 6 > stop)
      let listLen ← uint16At (offset + 4)
      waitIf (offset + 6 + listLen > stop)
      tlsServerNames (offset + 6 + listLen) (offset + 6)
  else pure []
termination_by stop - offset

/-- The server name of a hello, or the empty one. -/
def parseTLSClientHello : Peek GoString := do
  rejectIf ((← byteAt 0) ≠ 0x16)
  need 5
  let recordLen ← uint16At 3
  let recordEnd := 5 + recordLen
  need recordEnd
  rejectIf (recordEnd ≤ 9)
  rejectIf ((← byteAt 5) ≠ 0x01)
  waitIf (9 + 2 + 32 > recordEnd)
  waitIf (43 ≥ recordEnd)
  let sessionLen ← byteAt 43
  let offset := 44 + sessionLen.toNat
  waitIf (offset > recordEnd)
  waitIf (offset + 2 > recordEnd)
  let cipherLen ← uint16At offset
  let offset := offset + 2 + cipherLen
  waitIf (offset > recordEnd)
  waitIf (offset ≥ recordEnd)
  let compLen ← byteAt offset
  let offset := offset + 1 + compLen.toNat
  waitIf (offset > recordEnd)
  if offset = recordEnd then pure []
  else do
    waitIf (offset + 2 > recordEnd)
    let extLen ← uint16At offset
    waitIf (offset + 2 + extLen > recordEnd)
    tlsExtensions (offset + 2 + extLen) (offset + 2)

/-! ## The other protocols -/

def looksLikeAMQPProtocolHeader : Peek Unit := do
  literal (lit "AMQP")
  need 8

def isDNSLabelByte (b : UInt8) : Bool :=
  (97 ≤ b ∧ b ≤ 122) ∨ (65 ≤ b ∧ b ≤ 90) ∨ (48 ≤ b ∧ b ≤ 57) ∨ b = 45 ∨ b = 95

/-- The loop over the labels of a DNS name, from what is left of the message at `pos`. It gives the
labels and where they end. -/
def dnsLabels (complete : Bool) (rest : List UInt8) (pos : Nat) (labels : List GoString) :
    Decision (List GoString × Nat) :=
  match rest with
  | [] => wait rest complete
  | labelLen :: rest =>
    if labelLen = 0 then .matched (labels, pos + 1)
    else if labelLen > 63 then .noMatch
    else if rest.length < labelLen.toNat then wait rest complete
    else if (rest.take labelLen.toNat).all isDNSLabelByte = false then .noMatch
    else
      dnsLabels complete (rest.drop labelLen.toNat) (pos + 1 + labelLen.toNat)
        (labels ++ [rest.take labelLen.toNat])
termination_by rest.length

def parseDNSQueryHost : Peek GoString := do
  let messageLength ← uint16At 0
  rejectIf (messageLength < 17 ∨ messageLength > 65534)
  need 14
  let flags ← uint16At 4
  rejectIf (flags &&& 0x8000 ≠ 0 ∨ (flags >>> 11) &&& 0x0f ≠ 0)
  rejectIf ((← uint16At 6) ≠ 1)
  rejectIf ((← uint16At 8) ≠ 0)
  rejectIf ((← uint16At 10) ≠ 0)
  let (labels, pos) ← fun data complete => dnsLabels complete (data.drop 14) 12 []
  rejectIf (labels = [])
  rejectIf (messageLength < pos + 4)
  need (2 + pos + 4)
  let host := normalizeHost (List.intercalate (lit ".") labels)
  rejectIf (host = [])
  return host

/-- `parseMQTTRemainingLength` with `left` of its four bytes to go: the value and the bytes that
it takes. -/
def parseMQTTRemainingLength : Nat → Nat → Nat → Nat → Peek (Nat × Nat)
  | 0, _, _, _ => reject
  | left + 1, consumed, multiplier, value => do
    let encodedByte ← byteAt (1 + consumed)
    let value := value + (encodedByte &&& 127).toNat * multiplier
    if encodedByte &&& 128 = 0 then return (value, consumed + 1)
    else parseMQTTRemainingLength left (consumed + 1) (multiplier * 128) value

def looksLikeMQTTConnect : Peek Unit := do
  rejectIf ((← byteAt 0) ≠ 0x10)
  let (remainingLength, consumed) ← parseMQTTRemainingLength 4 0 1 0
  rejectIf (remainingLength < 10)
  let pos := 1 + consumed
  let nameLen ← uint16At pos
  rejectIf (nameLen ≤ 0)
  need (pos + 2 + nameLen + 4)
  let protocolName ← bytesAt (pos + 2) nameLen
  let protocolLevel ← byteAt (pos + 2 + nameLen)
  let connectFlags ← byteAt (pos + 2 + nameLen + 1)
  rejectIf (connectFlags &&& 0x01 ≠ 0)
  rejectIf ((connectFlags >>> 3) &&& 0x03 = 0x03)
  if protocolName = lit "MQTT" then rejectIf (protocolLevel ≠ 0x04 ∧ protocolLevel ≠ 0x05)
  else if protocolName = lit "MQIsdp" then rejectIf (protocolLevel ≠ 0x03)
  else reject

def looksLikeMongoMessage : Peek Unit := do
  need 16
  let messageLength ← uint32At 0
  rejectIf (messageLength.toNat < 21 ∨ messageLength.toNat > 65536)
  rejectIf ((← uint32At 8) ≠ 0)
  let opcode ← uint32At 12
  if opcode = 2013 then do
    need 21
    rejectIf ((← uint32At 16) &&& ~~~0x00010003 ≠ 0)
    let kind ← byteAt 20
    rejectIf (kind ≠ 0x00 ∧ kind ≠ 0x01)
  else if opcode = 2004 then do
    need 21
    rejectIf ((← uint32At 16) &&& ~~~0x000000ff ≠ 0)
    rejectIf ((← byteAt 20) = 0x00)
  else reject

def looksLikeRedisRESPArray : Peek Unit := do
  rejectIf ((← byteAt 0) ≠ 42)
  let lineEnd ← find (lit "\r\n")
  rejectIf (lineEnd = 1)
  rejectIf ((← bytesAt 1 (lineEnd - 1)).any (fun b => b < 48 ∨ b > 57))
  let next ← byteAt (lineEnd + 2)
  rejectIf (next ≠ 36 ∧ next ≠ 42)

def looksLikeSOCKS5Greeting : Peek Unit := do
  rejectIf ((← byteAt 0) ≠ 0x05)
  let methods ← byteAt 1
  rejectIf (methods = 0)
  need (2 + methods.toNat)

def sshBanner (line : GoString) : Decision GoString :=
  if line = [] then .noMatch
  else if ¬ lit "SSH-" <+: line then .noMatch
  else .matched line

def parseSSHBannerClassification (limit : Nat) : Peek GoString := fun data complete =>
  if data = [] then wait data complete
  else if data.length < 4 then
    if data <+: lit "SSH-" ∧ complete = false ∧ data.length < limit then .needMore else .noMatch
  else if ¬ lit "SSH-" <+: data then .noMatch
  else
    match indexOf (lit "\n") data with
    | none => if complete = false ∧ data.length < limit then .needMore else .noMatch
    | some index => sshBanner (trimReturns (data.take index))

/-! ## The classifiers -/

inductive TCPClassifier where
  | httpRequest
  | tlsClientHello
  | amqpProtocol
  | dnsTCPQuery
  | mqttConnect
  | mongoMessage
  | redisRESP
  | socks5Greeting
  | sshBanner
  | tcpUnknown
  deriving DecidableEq

def TCPClassifier.protocol : TCPClassifier → GoString
  | .httpRequest => lit "http"
  | .tlsClientHello => lit "tls"
  | .amqpProtocol => lit "amqp"
  | .dnsTCPQuery => lit "dns"
  | .mqttConnect => lit "mqtt"
  | .mongoMessage => lit "mongodb"
  | .redisRESP => lit "redis"
  | .socks5Greeting => lit "socks5"
  | .sshBanner => lit "ssh"
  | .tcpUnknown => lit "unknown"

/-- The classifiers that look for a protocol, in the order in which they are asked. -/
def protocolClassifiers : List TCPClassifier :=
  [.httpRequest, .tlsClientHello, .amqpProtocol, .dnsTCPQuery, .mqttConnect,
    .mongoMessage, .redisRESP, .socks5Greeting, .sshBanner]

def defaultTCPClassifiers : List TCPClassifier := protocolClassifiers ++ [.tcpUnknown]

inductive ReadError where
  | eof
  | other

structure TCPClassifyContext where
  origIP : Option IP
  origPort : Int
  headerLimit : Int
  peeked : List UInt8 := []
  readErr : Option ReadError := none
  readDone : Bool := false
  limitReached : Bool := false
  timedOut : Bool := false

def defaultTCPHeaderLimit : Nat := 64 * 1024

def TCPClassifyContext.isComplete (ctx : TCPClassifyContext) : Bool :=
  ctx.readDone || ctx.limitReached

def TCPClassifyContext.limit (ctx : TCPClassifyContext) : Nat :=
  if ctx.headerLimit ≤ 0 then defaultTCPHeaderLimit else ctx.headerLimit.toNat

def TCPClassifyContext.known (ctx : TCPClassifyContext) (c : TCPClassifier) (host : GoString) :
    TrafficClassification :=
  classifyKnownTraffic (lit "tcp") c.protocol ctx.origIP ctx.origPort host

def TCPClassifyContext.unknown (ctx : TCPClassifyContext) (c : TCPClassifier) (reason : GoString) :
    TrafficClassification :=
  classifyUnknownTraffic (lit "tcp") c.protocol ctx.origIP ctx.origPort reason

/-- The result of a protocol that names a host: unknown when the host is empty. -/
def TCPClassifyContext.named (ctx : TCPClassifyContext) (c : TCPClassifier)
    (missing host : GoString) : TrafficClassification :=
  if host = [] then ctx.unknown c missing else ctx.known c host

def unknownReason (ctx : TCPClassifyContext) : GoString :=
  if ctx.peeked = [] ∧ ctx.timedOut then lit "client_idle"
  else if ctx.timedOut then lit "classification_timeout"
  else if ctx.peeked = [] ∧ ctx.readErr ≠ none then lit "read_failed"
  else if ctx.limitReached then lit "header_limit_exceeded"
  else lit "unclassified"

def TCPClassifier.reader (http : RequestReader) (ctx : TCPClassifyContext) :
    TCPClassifier → Peek TrafficClassification
  | .httpRequest => do
    let host ← parseHTTPRequest http ctx.limit
    return ctx.named .httpRequest (lit "missing_host") (normalizeHost host)
  | .tlsClientHello => do
    let serverName ← parseTLSClientHello
    return ctx.named .tlsClientHello (lit "missing_sni") (normalizeHost serverName)
  | .amqpProtocol => do
    looksLikeAMQPProtocolHeader
    return ctx.known .amqpProtocol []
  | .dnsTCPQuery => do
    let host ← parseDNSQueryHost
    return ctx.known .dnsTCPQuery host
  | .mqttConnect => do
    looksLikeMQTTConnect
    return ctx.known .mqttConnect []
  | .mongoMessage => do
    looksLikeMongoMessage
    return ctx.known .mongoMessage []
  | .redisRESP => do
    looksLikeRedisRESPArray
    return ctx.known .redisRESP []
  | .socks5Greeting => do
    looksLikeSOCKS5Greeting
    return ctx.known .socks5Greeting []
  | .sshBanner => do
    let _banner ← parseSSHBannerClassification ctx.limit
    return ctx.known .sshBanner []
  | .tcpUnknown => fun data complete =>
    if data = [] ∧ complete = false then .needMore
    else .matched (ctx.unknown .tcpUnknown (unknownReason ctx))

/-- The `Prefix` of a request that the `Apply` of a classifier's result installs: a copy of
what is buffered. The unknown result has no `Apply` where nothing is. -/
def TCPClassifier.apply (ctx : TCPClassifyContext) : TCPClassifier → Option (List UInt8)
  | .httpRequest | .tlsClientHello | .amqpProtocol | .dnsTCPQuery | .mqttConnect | .mongoMessage
  | .redisRESP | .socks5Greeting | .sshBanner => some ctx.peeked
  | .tcpUnknown => if ctx.peeked = [] then none else some ctx.peeked

structure ClassificationResult where
  classification : TrafficClassification
  apply : Option (List UInt8)
  deriving DecidableEq

def TCPClassifier.classify (http : RequestReader) (c : TCPClassifier) (ctx : TCPClassifyContext) :
    Decision ClassificationResult :=
  match c.reader http ctx ctx.peeked ctx.isComplete with
  | .noMatch => .noMatch
  | .needMore => .needMore
  | .matched classification => .matched { classification, apply := c.apply ctx }

/-! ## The loop -/

inductive Round where
  | result (r : ClassificationResult)
  | noMatch
  | readMore

/-- One round over the classifiers. An unknown result stays behind while one of them waits. -/
def classifyRound (http : RequestReader) (ctx : TCPClassifyContext) :
    List TCPClassifier → Bool → Option ClassificationResult → Round
  | [], needMore, fallback =>
    match fallback with
    | some result =>
      if needMore = false ∨ ctx.isComplete then .result result
      else .readMore
    | none => if needMore = false ∨ ctx.isComplete then .noMatch else .readMore
  | c :: cs, needMore, fallback =>
    match c.classify http ctx with
    | .matched result =>
      if result.classification.protocol = lit "unknown" ∧ needMore ∧ ctx.isComplete = false then
        classifyRound http ctx cs needMore (some result)
      else .result result
    | .needMore => classifyRound http ctx cs true fallback
    | .noMatch => classifyRound http ctx cs needMore fallback

inductive ConnRead where
  | data (bytes : List UInt8)
  | timeout
  | failed (err : ReadError)

/-- `readMore`, for a context that is not complete. What a read has beyond the limit stays
unread. -/
def TCPClassifyContext.readMore (ctx : TCPClassifyContext) (read : ConnRead) : TCPClassifyContext :=
  let remaining := ctx.limit - ctx.peeked.length
  if remaining = 0 then { ctx with limitReached := true, readDone := true }
  else
    match read with
    | .data bytes =>
      let peeked := ctx.peeked ++ bytes.take remaining
      if peeked.length ≥ ctx.limit then { ctx with peeked, limitReached := true, readDone := true }
      else { ctx with peeked }
    | .timeout => { ctx with timedOut := true, readDone := true }
    | .failed err => { ctx with readErr := some err, readDone := true }

inductive ClassifyError where
  | noClassifierMatched
  | noProgress
  deriving DecidableEq

/-- `classifyTCP` on a connection with these reads, which ends behind them. -/
def classifyTCP (http : RequestReader) (classifiers : List TCPClassifier) :
    TCPClassifyContext → List ConnRead → Except ClassifyError TrafficClassification
  | ctx, reads =>
    match classifyRound http ctx classifiers false none with
    | .result result => .ok result.classification
    | .noMatch => .error .noClassifierMatched
    | .readMore =>
      match reads with
      | [] =>
        match classifyRound http (ctx.readMore (.failed .eof)) classifiers false none with
        | .result result => .ok result.classification
        | _ => .error .noClassifierMatched
      | read :: reads =>
        let ctx' := ctx.readMore read
        -- no bytes, no error and no end
        if ctx'.peeked = ctx.peeked ∧ ctx'.isComplete = false then .error .noProgress
        else classifyTCP http classifiers ctx' reads

/-! ## Which classifier settles the connection -/

abbrev Outcome := GoString × GoString × Bool

def outcome (c : TrafficClassification) : Outcome :=
  (c.protocol, c.host, decide (c.unknownReason ≠ []))

section

variable (http : RequestReader) (ctx : TCPClassifyContext)

def TCPClassifier.Accepts (c : TCPClassifier) (data : List UInt8) (complete : Bool) : Prop :=
  ∃ result, c.reader http ctx data complete = .matched result

instance (c : TCPClassifier) (data : List UInt8) (complete : Bool) :
    Decidable (c.Accepts http ctx data complete) :=
  match h : c.reader http ctx data complete with
  | .matched result => isTrue ⟨result, h⟩
  | .noMatch => isFalse fun ⟨_, hr⟩ => by simp [h] at hr
  | .needMore => isFalse fun ⟨_, hr⟩ => by simp [h] at hr

/-- The classifier whose result ends the classification at these bytes: the first one that
accepts them, or the fallback when none of them does and none waits for more. -/
def settler (data : List UInt8) (complete : Bool) : Option TCPClassifier :=
  match protocolClassifiers.find? fun c => c.Accepts http ctx data complete with
  | some c => some c
  | none =>
    if complete ∨ ∀ c ∈ protocolClassifiers, c.reader http ctx data complete = .noMatch then
      some .tcpUnknown
    else none

def outcomeOf (c : TCPClassifier) (data : List UInt8) (complete : Bool) : Outcome :=
  match c.reader http ctx data complete with
  | .matched result => outcome result
  | _ => ([], [], false)

end

/-! ## What settles -/

section

variable {limit : Nat}

lemma settles_tlsServerNames (listEnd offset : Nat) :
    Settles limit (tlsServerNames listEnd offset) := by
  induction hn : listEnd - offset using Nat.strong_induction_on generalizing offset with
  | _ n ih =>
    rw [tlsServerNames]
    split
    · refine settles_bind (settles_byteAt _) fun nameType => ?_
      refine settles_bind (settles_uint16At _) fun nameLen => ?_
      refine settles_ite (fun _ => settles_wait) fun _ => ?_
      refine settles_ite (fun _ => settles_bytesAt _ _) fun _ => ?_
      exact ih _ (by omega) _ rfl
    · exact settles_pure _

lemma settles_tlsExtensions (stop offset : Nat) : Settles limit (tlsExtensions stop offset) := by
  induction hn : stop - offset using Nat.strong_induction_on generalizing offset with
  | _ n ih =>
    rw [tlsExtensions]
    split
    · refine settles_bind (settles_uint16At _) fun extType => ?_
      refine settles_bind (settles_uint16At _) fun extSize => ?_
      refine settles_ite (fun _ => settles_wait) fun _ => ?_
      refine settles_ite (fun _ => ih _ (by omega) _ rfl) fun _ => ?_
      refine settles_bind (settles_waitIf _) fun _ => ?_
      refine settles_bind (settles_uint16At _) fun listLen => ?_
      refine settles_bind (settles_waitIf _) fun _ => ?_
      exact settles_tlsServerNames _ _
    · exact settles_pure _

lemma settles_parseTLSClientHello : Settles limit parseTLSClientHello := by
  unfold parseTLSClientHello
  repeat' first
    | intro _
    | exact settles_tlsExtensions _ _
    | apply settles_bind
    | apply settles_ite
    | simp

lemma settles_looksLikeAMQPProtocolHeader : Settles limit looksLikeAMQPProtocolHeader :=
  settles_bind (settles_literal _) fun _ => settles_need _

variable {rest data : List UInt8}

/-- Labels that have come are read the same when more bytes come behind them. -/
lemma dnsLabels_append {more : List UInt8} {pos : Nat} {labels : List GoString}
    (h : dnsLabels false rest pos labels ≠ .needMore) (complete : Bool) :
    dnsLabels complete (rest ++ more) pos labels = dnsLabels false rest pos labels := by
  induction hn : rest.length using Nat.strong_induction_on generalizing rest pos labels with
  | _ n ih =>
    cases rest with
    | nil => exact absurd (by rw [dnsLabels]; rfl) h
    | cons labelLen rest =>
      rw [cons_append]
      rw [dnsLabels] at h ⊢
      rw [dnsLabels]
      split
      · rfl
      split
      · rfl
      rename_i hzero hlong
      rw [if_neg hzero, if_neg hlong] at h
      by_cases hshort : rest.length < labelLen.toNat
      · rw [if_pos hshort] at h
        exact absurd rfl h
      have hle : labelLen.toNat ≤ rest.length := by omega
      rw [if_neg hshort] at h ⊢
      rw [if_neg (by rw [length_append]; omega), take_append_of_le_length hle,
        drop_append_of_le_length hle]
      split
      · rfl
      · rename_i hbytes
        rw [if_neg hbytes] at h
        exact ih _ (by rw [length_drop, ← hn, length_cons]; omega) h rfl

lemma dnsLabels_complete {pos : Nat} {labels : List GoString} {a : List GoString × Nat}
    (h : dnsLabels true rest pos labels = .matched a) :
    dnsLabels false rest pos labels = .matched a := by
  induction hn : rest.length using Nat.strong_induction_on generalizing rest pos labels with
  | _ n ih =>
    cases rest with
    | nil => rw [dnsLabels] at h; cases h
    | cons labelLen rest =>
      rw [dnsLabels] at h ⊢
      split at h
      · rename_i hzero
        rw [if_pos hzero]
        exact h
      split at h
      · cases h
      split at h
      · cases h
      split at h
      · cases h
      rename_i hzero hlong hshort hbytes
      rw [if_neg hzero, if_neg hlong, if_neg hshort, if_neg hbytes]
      exact ih _ (by rw [length_drop, ← hn, length_cons]; omega) h rfl

lemma settles_dnsLabels (pos : Nat) :
    Settles limit (fun data complete => dnsLabels complete (data.drop 14) pos []) where
  matched {p q complete a} hpq _ h := by
    obtain ⟨more, hmore⟩ := hpq.drop 14
    rw [← hmore, dnsLabels_append (by rw [h]; simp), h]
  early _ h := dnsLabels_complete h
  noMatch {p q complete} hpq _ h := by
    obtain ⟨more, hmore⟩ := hpq.drop 14
    rw [← hmore, dnsLabels_append (by rw [h]; simp), h]

lemma settles_parseDNSQueryHost : Settles limit parseDNSQueryHost := by
  unfold parseDNSQueryHost
  repeat' first
    | intro _
    | exact settles_dnsLabels _
    | apply settles_bind
    | simp

lemma settles_parseMQTTRemainingLength (left consumed multiplier value : Nat) :
    Settles limit (parseMQTTRemainingLength left consumed multiplier value) := by
  induction left generalizing consumed multiplier value with
  | zero => exact settles_reject
  | succ left ih =>
    refine settles_bind (settles_byteAt _) fun encodedByte => ?_
    exact settles_ite (fun _ => settles_pure _) fun _ => ih _ _ _

lemma settles_looksLikeMQTTConnect : Settles limit looksLikeMQTTConnect := by
  unfold looksLikeMQTTConnect
  repeat' first
    | intro _
    | exact settles_parseMQTTRemainingLength _ _ _ _
    | apply settles_bind
    | apply settles_ite
    | simp

lemma settles_looksLikeMongoMessage : Settles limit looksLikeMongoMessage := by
  unfold looksLikeMongoMessage
  repeat' first | intro _ | apply settles_bind | apply settles_ite | simp

lemma settles_looksLikeRedisRESPArray : Settles limit looksLikeRedisRESPArray := by
  unfold looksLikeRedisRESPArray
  repeat' first | intro _ | apply settles_bind | simp

lemma settles_looksLikeSOCKS5Greeting : Settles limit looksLikeSOCKS5Greeting := by
  unfold looksLikeSOCKS5Greeting
  repeat' first | intro _ | apply settles_bind | simp

section

variable {index : Nat} (hlong : ¬ data.length < 4) (hssh : lit "SSH-" <+: data)
  (hline : indexOf (lit "\n") data = some index)

include hlong hssh hline

lemma parseSSHBanner_of_line (complete : Bool) :
    parseSSHBannerClassification limit data complete =
      sshBanner (trimReturns (data.take index)) := by
  have hne : data ≠ [] := by
    rintro rfl
    exact hlong (by decide)
  unfold parseSSHBannerClassification
  rw [if_neg hne, if_neg hlong, if_neg (not_not.mpr hssh), hline]

lemma parseSSHBanner_append (complete : Bool) :
    parseSSHBannerClassification limit (data ++ rest) complete =
      sshBanner (trimReturns (data.take index)) := by
  have hle := length_le_of_indexOf hline
  rw [parseSSHBanner_of_line (by rw [length_append]; omega) (hssh.trans (prefix_append _ _))
    (indexOf_append hline _), take_append_of_le_length (by omega)]

end

lemma line_of_parseSSHBanner {complete : Bool} {banner : GoString}
    (h : parseSSHBannerClassification limit data complete = .matched banner) : ¬ data.length < 4 ∧
      lit "SSH-" <+: data ∧ ∃ index, indexOf (lit "\n") data = some index := by
  unfold parseSSHBannerClassification at h
  split at h
  · cases complete <;> cases h
  split at h
  · split at h <;> cases h
  rename_i hlong
  split at h
  · cases h
  rename_i hssh
  split at h
  · split at h <;> cases h
  rename_i index hline
  exact ⟨hlong, not_not.mp hssh, index, hline⟩

lemma settles_parseSSHBannerClassification :
    Settles limit (parseSSHBannerClassification limit) where
  matched {p q complete banner} hpq hlimit h := by
    obtain ⟨rest, rfl⟩ := hpq
    obtain ⟨hlong, hssh, index, hline⟩ := line_of_parseSSHBanner h
    rw [parseSSHBanner_append hlong hssh hline, ← h, parseSSHBanner_of_line hlong hssh hline]
  early {p banner} hlimit h := by
    obtain ⟨hlong, hssh, index, hline⟩ := line_of_parseSSHBanner h
    rw [parseSSHBanner_of_line hlong hssh hline] at h ⊢
    exact h
  noMatch {p q complete} hpq hlimit h := by
    obtain ⟨rest, rfl⟩ := hpq
    have hlen : (lit "SSH-").length = 4 := by decide +kernel
    have hne : p ≠ [] := by
      rintro rfl
      cases h
    by_cases hshort : p.length < 4
    · unfold parseSSHBannerClassification at h ⊢
      rw [if_neg hne, if_pos hshort] at h
      rw [if_neg (by simp [hne])]
      have hnot : ¬ p <+: lit "SSH-" := by
        intro hpre
        rw [if_pos ⟨hpre, rfl, hlimit⟩] at h
        cases h
      -- what does not begin the banner does not begin it later
      split
      · rw [if_neg]
        rintro ⟨hpre, -⟩
        exact hnot ((prefix_append p rest).trans hpre)
      · rw [if_pos]
        intro hpre
        exact hnot (prefix_of_prefix_length_le (prefix_append p rest) hpre (by omega))
    by_cases hssh : lit "SSH-" <+: p
    · cases hline : indexOf (lit "\n") p with
      | none =>
        simp [parseSSHBannerClassification, hne, hshort, hssh, hline, hlimit] at h
      | some index =>
        rw [parseSSHBanner_of_line hshort hssh hline] at h
        rw [parseSSHBanner_append hshort hssh hline, h]
    · unfold parseSSHBannerClassification
      rw [if_neg (by simp [hne]), if_neg (by rw [length_append]; omega), if_pos]
      rwa [isPrefix_append_iff (by omega)]

/-- The verdict of a parser of a protocol is final: below the header limit, no bytes that come
later change it. -/
theorem verdicts_are_final {p q : List UInt8} (hpq : p <+: q) (hlimit : q.length < limit) :
    Final parseTLSClientHello p q ∧ Final parseDNSQueryHost p q ∧ Final looksLikeMQTTConnect p q ∧
      Final looksLikeSOCKS5Greeting p q ∧ Final looksLikeAMQPProtocolHeader p q ∧
      Final looksLikeRedisRESPArray p q ∧ Final looksLikeMongoMessage p q ∧
      Final (parseSSHBannerClassification limit) p q := by
  have hp : p.length < limit := hpq.length_le.trans_lt hlimit
  exact ⟨settles_parseTLSClientHello.final hpq hp, settles_parseDNSQueryHost.final hpq hp,
    settles_looksLikeMQTTConnect.final hpq hp, settles_looksLikeSOCKS5Greeting.final hpq hp,
    settles_looksLikeAMQPProtocolHeader.final hpq hp, settles_looksLikeRedisRESPArray.final hpq hp,
    settles_looksLikeMongoMessage.final hpq hp, settles_parseSSHBannerClassification.final hpq hp⟩

theorem greeting_stays_a_greeting :
    looksLikeSOCKS5Greeting [5, 1, 0] false = .matched () ∧
      looksLikeSOCKS5Greeting [5, 1, 0, 5, 1] true = .matched () := by
  have h : looksLikeSOCKS5Greeting [5, 1, 0] false = .matched () := by decide
  have hfinal := (@verdicts_are_final 64 [5, 1, 0] [5, 1, 0, 5, 1] (by decide) (by decide)).2.2.2.1
  exact ⟨h, (hfinal (by rw [h]; nofun) true).trans h⟩

lemma newline_of_terminator {headerEnd : Nat} (h : findHTTPHeaderTerminator data = some headerEnd) :
    ∃ i, indexOf (lit "\n") data = some i := by
  have hinfix : ∀ {pattern : List UInt8} {i : Nat}, lit "\n" <:+: pattern →
      indexOf pattern data = some i → lit "\n" <:+: data := by
    intro pattern i hnl hi
    exact hnl.trans (indexOf_isSome_iff.mp (by rw [hi]; rfl))
  apply Option.isSome_iff_exists.mp
  rw [indexOf_isSome_iff]
  unfold findHTTPHeaderTerminator at h
  cases hcrlf : indexOf (lit "\r\n\r\n") data with
  | some i => exact hinfix (by decide +kernel) hcrlf
  | none =>
    rw [hcrlf] at h
    obtain ⟨i, hi, -⟩ := Option.map_eq_some_iff.mp h
    exact hinfix (by decide +kernel) hi

lemma firstLine_append {i : Nat} (h : indexOf (lit "\n") data = some i) :
    firstLine (data ++ rest) = firstLine data := by
  have hle := length_le_of_indexOf h
  unfold firstLine
  rw [indexOf_append h, h]
  exact take_append_of_le_length (by omega)

/-- Later bytes may move the end of the header, but not what is read of the request. -/
lemma readRequest_append (http : RequestReader) {headerEnd : Nat}
    (h : findHTTPHeaderTerminator data = some headerEnd) (rest : List UInt8) :
    ∃ headerEnd', findHTTPHeaderTerminator (data ++ rest) = some headerEnd' ∧
      http.readRequest ((data ++ rest).take headerEnd') =
        http.readRequest (data.take headerEnd) := by
  unfold findHTTPHeaderTerminator at h ⊢
  cases hcrlf : indexOf (lit "\r\n\r\n") data with
  | some i =>
    have hle := length_le_of_indexOf hcrlf
    have hlen : (lit "\r\n\r\n").length = 4 := by decide +kernel
    rw [hcrlf] at h
    cases h
    rw [indexOf_append hcrlf]
    exact ⟨i + 4, rfl, by rw [take_append_of_le_length (by omega)]⟩
  | none =>
    rw [hcrlf] at h
    obtain ⟨i, hi, rfl⟩ := Option.map_eq_some_iff.mp h
    have hle := length_le_of_indexOf hi
    have hlen : (lit "\n\n").length = 2 := by decide +kernel
    cases hcrlf' : indexOf (lit "\r\n\r\n") (data ++ rest) with
    | none =>
      exact ⟨i + 2, by simp [indexOf_append hi], by rw [take_append_of_le_length (by omega)]⟩
    | some j =>
      refine ⟨j + 4, rfl, ?_⟩
      -- the new end is behind the old one: otherwise it had been found already
      have hbehind : i + 2 ≤ j + 4 := by
        by_contra hbefore
        have hlen4 : (lit "\r\n\r\n").length = 4 := by decide +kernel
        rw [indexOf_of_append hcrlf' (by omega)] at hcrlf
        cases hcrlf
      obtain ⟨more, hmore⟩ : data.take (i + 2) <+: (data ++ rest).take (j + 4) := by
        have htake : (data ++ rest).take (i + 2) = data.take (i + 2) :=
          take_append_of_le_length (by omega)
        rw [← htake]
        exact take_prefix_take_left hbehind
      rw [← hmore]
      exact http.stops _ _ (by have := suffix_take_of_indexOf hi; rwa [hlen] at this)

lemma keeps_parseHTTPRequest (http : RequestReader) :
    Keeps limit (parseHTTPRequest http limit) where
  matched {p q complete host} hpq hlimit h := by
    obtain ⟨rest, rfl⟩ := hpq
    unfold parseHTTPRequest at h ⊢
    have hne : p ≠ [] := by
      rintro rfl
      cases h
    rw [if_neg hne] at h
    split at h
    · cases h
    rename_i hlooks
    split at h
    · split at h <;> cases h
    rename_i headerEnd hend
    obtain ⟨i, hi⟩ := newline_of_terminator hend
    obtain ⟨headerEnd', hend', hread⟩ := readRequest_append http hend rest
    have hlooks' : looksLikeHTTPRequestPrefix (p ++ rest) = looksLikeHTTPRequestPrefix p := by
      unfold looksLikeHTTPRequestPrefix
      rw [firstLine_append hi]
      simp [hne]
    rw [if_neg (by simp [hne]), hlooks', if_neg hlooks, hend']
    simp only [hread]
    exact h
  early {p host} hlimit h := by
    unfold parseHTTPRequest at h ⊢
    split at h
    · cases h
    rename_i hne
    rw [if_neg hne]
    split at h
    · cases h
    rename_i hlooks
    rw [if_neg hlooks]
    split at h
    · split at h <;> cases h
    exact h

end

/-! ## A round asks for the settler -/

variable {http : RequestReader} {ctx ctx' : TCPClassifyContext} {c : TCPClassifier}
    {data stream : List UInt8} {complete : Bool}
  {result : TrafficClassification}

lemma protocol_injective {d : TCPClassifier} (h : c.protocol = d.protocol) : c = d := by
  revert h
  cases c <;> cases d <;> decide +kernel

open TCPClassifyContext

lemma named_protocol (ctx : TCPClassifyContext) (c : TCPClassifier) (missing host : GoString) :
    (ctx.named c missing host).protocol = c.protocol := by
  unfold named
  split <;> rfl

lemma of_bind_matched {α β : Type} {x : Peek α} {f : α → β} {b : β}
    (h : (do let a ← x; return f a : Peek β) data complete = .matched b) : ∃ a, b = f a := by
  rw [bind_apply] at h
  cases ha : x data complete with
  | noMatch | needMore => simp [ha] at h
  | matched a =>
    simp only [ha, pure_apply, Decision.matched.injEq] at h
    exact ⟨a, h.symm⟩

open TCPClassifier

lemma reader_protocol (h : c.reader http ctx data complete = .matched result) :
    result.protocol = c.protocol := by
  cases c with
  | tcpUnknown =>
    simp only [reader] at h
    split at h
    · cases h
    · cases h
      rfl
  | httpRequest | tlsClientHello =>
    obtain ⟨host, rfl⟩ := of_bind_matched h
    exact named_protocol _ _ _ _
  | _ =>
    obtain ⟨a, rfl⟩ := of_bind_matched h
    rfl

structure SameOrigin (ctx ctx' : TCPClassifyContext) : Prop where
  ip : ctx'.origIP = ctx.origIP
  port : ctx'.origPort = ctx.origPort
  headerLimit : ctx'.headerLimit = ctx.headerLimit

lemma SameOrigin.limit (h : SameOrigin ctx ctx') : ctx'.limit = ctx.limit := by
  unfold TCPClassifyContext.limit
  rw [h.headerLimit]

lemma SameOrigin.reader (h : SameOrigin ctx ctx') (hc : c ≠ .tcpUnknown) :
    c.reader http ctx' = c.reader http ctx := by
  have hknown : ctx'.known = ctx.known := by
    unfold known
    rw [h.ip, h.port]
  have hnamed : ctx'.named = ctx.named := by
    unfold named unknown
    rw [hknown, h.ip, h.port]
  cases c with
  | tcpUnknown => exact absurd rfl hc
  | _ => simp only [reader, h.limit, hknown, hnamed]

lemma classify_matched_iff {r : ClassificationResult} : c.classify http ctx = .matched r ↔
    c.reader http ctx ctx.peeked ctx.isComplete = .matched r.classification ∧
      r.apply = c.apply ctx := by
  unfold classify
  cases c.reader http ctx ctx.peeked ctx.isComplete with
  | noMatch | needMore => simp
  | matched classification => cases r; simp [eq_comm]

lemma classify_needMore_iff : c.classify http ctx = .needMore ↔
    c.reader http ctx ctx.peeked ctx.isComplete = .needMore := by
  unfold classify
  split <;> simp_all

/-- The classifiers for protocols are asked in order: the first that accepts ends the round, and
otherwise the fallback is asked, which hears whether one of them waits. -/
lemma classifyRound_append {cs : List TCPClassifier} (hcs : .tcpUnknown ∉ cs) (needMore : Bool) :
    (∃ c result, cs.find? (fun c => c.Accepts http ctx ctx.peeked ctx.isComplete) = some c ∧
        c.classify http ctx = .matched result ∧
        classifyRound http ctx (cs ++ [.tcpUnknown]) needMore none = .result result) ∨
      cs.find? (fun c => c.Accepts http ctx ctx.peeked ctx.isComplete) = none ∧
        classifyRound http ctx (cs ++ [.tcpUnknown]) needMore none =
          classifyRound http ctx [.tcpUnknown]
            (needMore || cs.any fun c => c.classify http ctx = .needMore) none := by
  induction cs generalizing needMore with
  | nil => exact .inr ⟨rfl, by simp⟩
  | cons c cs ih =>
    have hcs' : .tcpUnknown ∉ cs := fun h => hcs (mem_cons_of_mem _ h)
    have hnot : (∀ result, c.classify http ctx ≠ .matched result) →
        ¬ c.Accepts http ctx ctx.peeked ctx.isComplete := fun hne ⟨_, hr⟩ =>
      hne ⟨_, c.apply ctx⟩ (classify_matched_iff.mpr ⟨hr, rfl⟩)
    rw [cons_append, classifyRound]
    cases hc : c.classify http ctx with
    | matched result =>
      have hread := (classify_matched_iff.mp hc).1
      have hne : result.classification.protocol ≠ lit "unknown" := by
        rw [reader_protocol hread]
        intro h
        exact hcs (protocol_injective (d := .tcpUnknown) h ▸ mem_cons_self)
      refine .inl ⟨c, result, ?_, hc, ?_⟩
      · rw [find?_cons_of_pos]
        exact decide_eq_true ⟨_, hread⟩
      · simp [hne]
    | needMore =>
      rw [find?_cons_of_neg (by simpa using hnot (by simp [hc]))]
      simpa [hc] using ih hcs' true
    | noMatch =>
      rw [find?_cons_of_neg (by simpa using hnot (by simp [hc]))]
      simpa [hc] using ih hcs' needMore

lemma classifyRound_unknown (http : RequestReader) (ctx : TCPClassifyContext) (needMore : Bool) :
    classifyRound http ctx [.tcpUnknown] needMore none =
      if ctx.isComplete ∨ (needMore = false ∧ ctx.peeked ≠ []) then
        .result ⟨ctx.unknown .tcpUnknown (unknownReason ctx), apply ctx .tcpUnknown⟩
      else .readMore := by
  have hproto : (ctx.unknown .tcpUnknown (unknownReason ctx)).protocol = lit "unknown" := rfl
  simp only [classifyRound, classify, reader]
  cases hcomplete : ctx.isComplete with
  | true => simp
  | false =>
    by_cases hempty : ctx.peeked = []
    · simp [hempty]
    · cases needMore <;> simp [hempty, hproto]

lemma unknownReason_ne (ctx : TCPClassifyContext) : unknownReason ctx ≠ [] := by
  unfold unknownReason
  split
  · decide +kernel
  split
  · decide +kernel
  split
  · decide +kernel
  split <;> decide +kernel

lemma outcomeOf_eq (h : c.reader http ctx data complete = .matched result) :
    outcomeOf http ctx c data complete = outcome result := by
  unfold outcomeOf
  rw [h]

lemma outcome_unknown (ctx : TCPClassifyContext) :
    outcome (ctx.unknown .tcpUnknown (unknownReason ctx)) = (lit "unknown", [], true) := by
  simp only [outcome, unknown, classifyUnknownTraffic, ne_eq, unknownReason_ne ctx,
    not_false_iff, decide_true]
  rfl

lemma outcomeOf_unknown (h : data ≠ [] ∨ complete = true) :
    outcomeOf http ctx .tcpUnknown data complete = (lit "unknown", [], true) := by
  have hread : tcpUnknown.reader http ctx data complete =
      .matched (ctx.unknown .tcpUnknown (unknownReason ctx)) := by
    simp only [reader]
    rw [if_neg]
    rintro ⟨rfl, rfl⟩
    simp at h
  rw [outcomeOf_eq hread, outcome_unknown]

lemma protocol_ne_unknown (h : c ∈ protocolClassifiers) : c ≠ .tcpUnknown := by
  rintro rfl
  revert h
  decide

lemma reader_nil (http : RequestReader) (ctx : TCPClassifyContext) :
    TCPClassifier.httpRequest.reader http ctx [] false = .needMore := rfl

/-- Where every protocol says no, there are bytes and no classifier waits: the HTTP reader
waits for a first byte. -/
lemma ready_of_noMatch (hcomplete : ctx.isComplete = false)
    (hall : ∀ c ∈ protocolClassifiers, c.reader http ctx ctx.peeked ctx.isComplete = .noMatch) :
    ctx.peeked ≠ [] ∧
      (protocolClassifiers.any fun c => c.classify http ctx = .needMore) = false := by
  refine ⟨fun hempty => ?_, ?_⟩
  · have hhttp := hall .httpRequest (by decide)
    rw [hempty, hcomplete, reader_nil] at hhttp
    cases hhttp
  · simp only [any_eq_false, decide_eq_true_eq]
    intro c hc hwait
    rw [classify_needMore_iff, hall c hc] at hwait
    cases hwait

/-- A classifier that neither accepts nor says no waits. -/
lemma needMore_of_undecided (haccepts : ¬ c.Accepts http ctx ctx.peeked ctx.isComplete)
    (hne : c.reader http ctx ctx.peeked ctx.isComplete ≠ .noMatch) :
    c.classify http ctx = .needMore := by
  rw [classify_needMore_iff]
  cases hread : c.reader http ctx ctx.peeked ctx.isComplete with
  | noMatch => exact absurd hread hne
  | needMore => rfl
  | matched result => exact absurd ⟨result, hread⟩ haccepts

lemma round_spec (h : SameOrigin ctx ctx') :
    match settler http ctx ctx'.peeked ctx'.isComplete with
    | some c =>
      ∃ result, classifyRound http ctx' defaultTCPClassifiers false none = .result result ∧
        outcome result.classification = outcomeOf http ctx c ctx'.peeked ctx'.isComplete
    | none => classifyRound http ctx' defaultTCPClassifiers false none = .readMore ∧
        ctx'.isComplete = false := by
  have hreader : ∀ c ∈ protocolClassifiers, c.reader http ctx' = c.reader http ctx :=
    fun c hc => h.reader (protocol_ne_unknown hc)
  have hfind : protocolClassifiers.find?
    (fun c => c.Accepts http ctx' ctx'.peeked ctx'.isComplete) =
      protocolClassifiers.find? fun c => c.Accepts http ctx ctx'.peeked ctx'.isComplete := by
    apply find?_congr
    intro c hc
    refine decide_eq_decide.mpr ?_
    unfold TCPClassifier.Accepts
    rw [hreader c hc]
  unfold settler
  rw [← hfind]
  unfold defaultTCPClassifiers
  have hround := @classifyRound_append http ctx' protocolClassifiers (by decide) false
  rcases hround with ⟨c, result, hc, hmatched, hround⟩ | ⟨hnone, hround⟩
  · simp only [hc]
    refine ⟨result, hround, ?_⟩
    have hmem := mem_of_find?_eq_some hc
    obtain ⟨hread, -⟩ := classify_matched_iff.mp hmatched
    rw [hreader c hmem] at hread
    rw [outcomeOf_eq hread]
  · simp only [hnone]
    rw [hround, classifyRound_unknown]
    by_cases hset : ctx'.isComplete ∨
        ∀ c ∈ protocolClassifiers, c.reader http ctx ctx'.peeked ctx'.isComplete = .noMatch
    · have hready : ctx'.isComplete ∨ ctx'.peeked ≠ [] ∧
          (false || protocolClassifiers.any fun c => c.classify http ctx' = .needMore) = false := by
        rcases hset with hcomplete | hall
        · exact .inl hcomplete
        cases hcomplete : ctx'.isComplete with
        | true => exact .inl rfl
        | false => exact .inr (ready_of_noMatch hcomplete fun c hc => hreader c hc ▸ hall c hc)
      rw [if_pos hset, if_pos (hready.imp_right And.symm)]
      refine ⟨_, rfl, ?_⟩
      rw [outcome_unknown, outcomeOf_unknown (hready.symm.imp_left And.left)]
    · push Not at hset
      obtain ⟨hcomplete, c, hc, hne⟩ := hset
      have hwait : c.classify http ctx' = .needMore :=
        needMore_of_undecided (by simpa using find?_eq_none.mp hnone c hc) (hreader c hc ▸ hne)
      have hany : (protocolClassifiers.any fun c => c.classify http ctx' = .needMore) = true :=
        any_eq_true.mpr ⟨c, hc, decide_eq_true hwait⟩
      have hincomplete : ctx'.isComplete = false := by simpa using hcomplete
      rw [if_neg, if_neg]
      · exact ⟨rfl, hincomplete⟩
      · simp [hincomplete, hany]
      · push Not
        exact ⟨hcomplete, c, hc, hne⟩

/-! ## Runs -/

lemma find_none (h : ∀ d ∈ protocolClassifiers, ¬ d.Accepts http ctx data complete) :
    protocolClassifiers.find? (fun d => d.Accepts http ctx data complete) = none :=
  find?_eq_none.mpr (by simpa using h)

section

variable (http ctx)

lemma reader_settles (hc : c ∈ protocolClassifiers) (hhttp : c ≠ .httpRequest) :
    Settles ctx.limit (c.reader http ctx) := by
  cases c with
  | httpRequest => exact absurd rfl hhttp
  | tlsClientHello => exact settles_bind settles_parseTLSClientHello fun _ => settles_pure _
  | amqpProtocol => exact settles_bind settles_looksLikeAMQPProtocolHeader fun _ => settles_pure _
  | dnsTCPQuery => exact settles_bind settles_parseDNSQueryHost fun _ => settles_pure _
  | mqttConnect => exact settles_bind settles_looksLikeMQTTConnect fun _ => settles_pure _
  | mongoMessage => exact settles_bind settles_looksLikeMongoMessage fun _ => settles_pure _
  | redisRESP => exact settles_bind settles_looksLikeRedisRESPArray fun _ => settles_pure _
  | socks5Greeting => exact settles_bind settles_looksLikeSOCKS5Greeting fun _ => settles_pure _
  | sshBanner => exact settles_bind settles_parseSSHBannerClassification fun _ => settles_pure _
  | tcpUnknown => exact absurd rfl (protocol_ne_unknown hc)

lemma reader_keeps (hc : c ∈ protocolClassifiers) : Keeps ctx.limit (c.reader http ctx) := by
  by_cases hhttp : c = .httpRequest
  · subst hhttp
    exact keeps_bind (keeps_parseHTTPRequest http) fun _ => (settles_pure _).toKeeps
  · exact (reader_settles http ctx hc hhttp).toKeeps

lemma settler_complete (data : List UInt8) : ∃ c, settler http ctx data true = some c := by
  unfold settler
  split
  · exact ⟨_, rfl⟩
  · exact ⟨_, if_pos (.inl rfl)⟩

lemma settler_nil : settler http ctx [] false = none := by
  have hamqp : literal (lit "AMQP") [] false = .needMore := by decide +kernel
  have hwait : ∀ c ∈ protocolClassifiers, c.reader http ctx [] false = .needMore := by
    intro c hc
    cases c with
    | tcpUnknown => exact absurd rfl (protocol_ne_unknown hc)
    | amqpProtocol =>
      simp only [TCPClassifier.reader, looksLikeAMQPProtocolHeader, bind_apply, hamqp]
    | _ => rfl
  unfold settler
  rw [find_none fun c hc ⟨result, hr⟩ => by rw [hwait c hc] at hr; cases hr]
  simp only [Bool.false_eq_true, false_or]
  rw [if_neg]
  intro hall
  have hhttp := hall .httpRequest (by decide)
  rw [reader_nil] at hhttp
  cases hhttp

end

lemma SameOrigin.readMore (h : SameOrigin ctx ctx') (read : ConnRead) :
    SameOrigin ctx (ctx'.readMore read) := by
  obtain ⟨hip, hport, hlimit⟩ := h
  unfold TCPClassifyContext.readMore
  dsimp only
  split
  · exact ⟨hip, hport, hlimit⟩
  split
  · split <;> exact ⟨hip, hport, hlimit⟩
  all_goals exact ⟨hip, hport, hlimit⟩

lemma settled_ends (h : SameOrigin ctx ctx')
    (hsettler : settler http ctx ctx'.peeked ctx'.isComplete = some c) (reads : List ConnRead) :
    ∃ result, classifyTCP http defaultTCPClassifiers ctx' reads = .ok result ∧
      outcome result = outcomeOf http ctx c ctx'.peeked ctx'.isComplete := by
  have hround := @round_spec http _ _ h
  rw [hsettler] at hround
  obtain ⟨result, hresult, houtcome⟩ := hround
  refine ⟨_, ?_, houtcome⟩
  unfold classifyTCP
  cases reads <;> simp only [hresult]

lemma unsettled_reads (h : SameOrigin ctx ctx')
    (hsettler : settler http ctx ctx'.peeked ctx'.isComplete = none) {read : ConnRead}
    {reads : List ConnRead} (hprogress : (ctx'.readMore read).peeked ≠ ctx'.peeked) :
    classifyTCP http defaultTCPClassifiers ctx' (read :: reads) =
      classifyTCP http defaultTCPClassifiers (ctx'.readMore read) reads := by
  have hround := @round_spec http _ _ h
  rw [hsettler] at hround
  rw [classifyTCP]
  simp only [hround.1, hprogress, false_and, if_false]

lemma unsettled_eof (h : SameOrigin ctx ctx')
    (hsettler : settler http ctx ctx'.peeked ctx'.isComplete = none)
    (hc : settler http ctx (ctx'.readMore (.failed .eof)).peeked
      (ctx'.readMore (.failed .eof)).isComplete = some c) :
    ∃ result, classifyTCP http defaultTCPClassifiers ctx' [] = .ok result ∧
      outcome result = outcomeOf http ctx c (ctx'.readMore (.failed .eof)).peeked
        (ctx'.readMore (.failed .eof)).isComplete := by
  have hround := @round_spec http _ _ h
  rw [hsettler] at hround
  have hround' := @round_spec http _ _ (h.readMore (.failed .eof))
  rw [hc] at hround'
  obtain ⟨result, hresult, houtcome⟩ := hround'
  refine ⟨_, ?_, houtcome⟩
  rw [classifyTCP]
  simp only [hround.1, hresult]

lemma readMore_data (hcomplete : ctx.isComplete = false) (hlimit : ctx.peeked.length < ctx.limit)
    (bytes : List UInt8) :
    (ctx.readMore (.data bytes)).peeked = (ctx.peeked ++ bytes).take ctx.limit ∧
      ((ctx.readMore (.data bytes)).isComplete = true ↔
        ctx.limit ≤ (ctx.peeked ++ bytes).length) := by
  have hpeeked : ctx.peeked ++ bytes.take (ctx.limit - ctx.peeked.length) =
      (ctx.peeked ++ bytes).take ctx.limit := by
    rw [take_append, take_of_length_le hlimit.le]
  unfold TCPClassifyContext.readMore
  dsimp only
  rw [if_neg (by omega), hpeeked]
  have hlen : ctx.limit ≤ ((ctx.peeked ++ bytes).take ctx.limit).length ↔
      ctx.limit ≤ (ctx.peeked ++ bytes).length := by
    rw [length_take]
    omega
  split
  · rename_i hreached
    exact ⟨rfl, by simpa [isComplete] using hlen.mp hreached⟩
  rename_i hshort
  refine ⟨rfl, ?_⟩
  rw [← hlen]
  exact iff_of_false (by simpa [isComplete] using hcomplete) hshort

lemma readMore_eof (hlimit : ctx.peeked.length < ctx.limit) :
    (ctx.readMore (.failed .eof)).peeked = ctx.peeked ∧
      (ctx.readMore (.failed .eof)).isComplete = true := by
  unfold TCPClassifyContext.readMore
  dsimp only
  rw [if_neg (by omega)]
  exact ⟨rfl, rfl⟩

/-- The whole of what a run can see of a stream. -/
def seen (ctx : TCPClassifyContext) (stream : List UInt8) : List UInt8 := stream.take ctx.limit

/-- A run ends at a settled prefix, or at the end of what it can see. -/
lemma run_ends {reads : List (List UInt8)} (h : SameOrigin ctx ctx')
    (hcomplete : ctx'.isComplete = false) (hlimit : ctx'.peeked.length < ctx.limit)
    (hreads : ∀ bytes ∈ reads, bytes ≠ []) (hstream : stream = ctx'.peeked ++ reads.flatten) :
    ∃ result data complete c,
      classifyTCP http defaultTCPClassifiers ctx' (reads.map .data) = .ok result ∧
      settler http ctx data complete = some c ∧
        outcome result = outcomeOf http ctx c data complete ∧
      (complete = false ∧ (∃ k, data = ctx'.peeked ++ (reads.take k).flatten) ∧
        data.length < ctx.limit ∨ complete = true ∧ data = seen ctx stream) := by
  induction reads generalizing ctx' with
    -- a read that settles ends the run before the next one
    (cases hsettler : settler http ctx ctx'.peeked ctx'.isComplete
     case some c =>
      obtain ⟨result, hresult, houtcome⟩ := settled_ends h hsettler _
      rw [hcomplete] at hsettler houtcome
      exact ⟨result, _, _, c, hresult, hsettler, houtcome, .inl ⟨rfl, ⟨0, by simp⟩, hlimit⟩⟩)
  | nil =>
    rw [flatten_nil, append_nil] at hstream
    subst hstream
    obtain ⟨hpeeked, hdone⟩ := readMore_eof (by rwa [h.limit])
    obtain ⟨c, hc⟩ := settler_complete http ctx ctx'.peeked
    obtain ⟨result, hresult, houtcome⟩ :=
      unsettled_eof h hsettler (by rw [hpeeked, hdone, hc])
    rw [hpeeked, hdone] at houtcome
    refine ⟨result, _, _, c, hresult, hc, houtcome, .inr ⟨rfl, ?_⟩⟩
    exact (take_of_length_le hlimit.le).symm
  | cons bytes reads ih =>
    obtain ⟨hpeeked, hdone⟩ := readMore_data hcomplete (by rwa [h.limit]) bytes
    rw [h.limit] at hpeeked hdone
    have hbytes := length_pos_iff.mpr (hreads bytes (by simp))
    have hprogress : (ctx'.readMore (.data bytes)).peeked ≠ ctx'.peeked := by
      intro heq
      have hlen := congrArg List.length (hpeeked.symm.trans heq)
      rw [length_take, length_append] at hlen
      omega
    rw [map_cons, unsettled_reads h hsettler hprogress]
    by_cases hfull : ctx.limit ≤ (ctx'.peeked ++ bytes).length
    · obtain ⟨c, hc⟩ := settler_complete http ctx (seen ctx stream)
      have hall : (ctx'.readMore (.data bytes)).peeked = seen ctx stream := by
        rw [hpeeked, hstream, seen, flatten_cons, ← append_assoc, take_append_of_le_length hfull]
      obtain ⟨result, hresult, houtcome⟩ := @settled_ends http ctx _ c (h.readMore (.data bytes))
        (by rw [hall, hdone.mpr hfull, hc]) (reads.map .data)
      rw [hall, hdone.mpr hfull] at houtcome
      exact ⟨result, _, _, c, hresult, hc, houtcome, .inr ⟨rfl, rfl⟩⟩
    · have hshort : (ctx'.peeked ++ bytes).length < ctx.limit := by omega
      rw [take_of_length_le hshort.le] at hpeeked
      obtain ⟨result, data, complete, c, hresult, hc, houtcome, hends⟩ :=
        ih (h.readMore _) (Bool.eq_false_iff.mpr fun hd => hfull (hdone.mp hd)) (by rwa [hpeeked])
          (fun b hb => hreads b (by simp [hb]))
            (by rw [hpeeked, hstream, flatten_cons, append_assoc])
      refine ⟨result, data, complete, c, hresult, hc, houtcome, hends.imp_left ?_⟩
      rintro ⟨hopen, ⟨k, hdata⟩, hlen⟩
      exact ⟨hopen, ⟨k + 1, by rw [hdata, hpeeked, take_succ_cons, flatten_cons,
        append_assoc]⟩, hlen⟩

/-! ## Overtaking -/

def TCPClassifier.rank (c : TCPClassifier) : Nat := protocolClassifiers.idxOf c

lemma idxOf_le_of_find? {α : Type} [DecidableEq α] {p : α → Bool} {l : List α} {c d : α}
    (h : l.find? p = some c) (hd : p d = true) : l.idxOf c ≤ l.idxOf d := by
  induction l with
  | nil => simp at h
  | cons x l ih =>
    rw [find?_cons] at h
    cases hx : p x with rw [hx] at h
    | true =>
      cases h
      simp
    | false =>
      have hc : p c = true := find?_some h
      have hxc : x ≠ c := by
        rintro rfl
        simp [hx] at hc
      have hxd : x ≠ d := by
        rintro rfl
        simp [hx] at hd
      rw [idxOf_cons_ne _ hxc, idxOf_cons_ne _ hxd]
      exact succ_le_succ (ih h)

lemma rank_lt_iff : c.rank < protocolClassifiers.length ↔ c ∈ protocolClassifiers :=
  idxOf_lt_length_iff

lemma settler_first {d : TCPClassifier} (h : settler http ctx data complete = some c)
    (hd : d.Accepts http ctx data complete) (hmem : d ∈ protocolClassifiers) : c.rank ≤ d.rank := by
  unfold settler at h
  split at h
  · rename_i e hfind
    cases h
    exact idxOf_le_of_find? hfind (decide_eq_true hd)
  · rename_i hnone
    exact absurd (decide_eq_true hd) (find?_eq_none.mp hnone d hmem)

lemma settler_cases (h : settler http ctx data complete = some c) :
    (c ∈ protocolClassifiers ∧ c.Accepts http ctx data complete) ∨ c = .tcpUnknown ∧
        (complete ∨ ∀ d ∈ protocolClassifiers, d.reader http ctx data complete = .noMatch) := by
  unfold settler at h
  split at h
  · rename_i e hfind
    cases h
    have haccepts := find?_some hfind
    exact .inl ⟨mem_of_find?_eq_some hfind, of_decide_eq_true haccepts⟩
  · split at h
    · cases h
      exact .inr ⟨rfl, ‹_›⟩
    · cases h

lemma settler_of_first (hmem : c ∈ protocolClassifiers) (hc : c.Accepts http ctx data complete)
    (hfirst : ∀ d : TCPClassifier, d.rank < c.rank → ¬ d.Accepts http ctx data complete) :
    settler http ctx data complete = some c := by
  have hsome : (protocolClassifiers.find? fun d => d.Accepts http ctx data complete).isSome := by
    rw [find?_isSome]
    exact ⟨c, hmem, decide_eq_true hc⟩
  obtain ⟨e, he⟩ := Option.isSome_iff_exists.mp hsome
  have hle : e.rank ≤ c.rank := idxOf_le_of_find? he (decide_eq_true hc)
  have hec : e = c := by
    rcases hle.lt_or_eq with hlt | heq
    · have haccepts := find?_some he
      exact absurd (of_decide_eq_true haccepts) (hfirst e hlt)
    · exact (idxOf_inj (mem_of_find?_eq_some he)).mp heq
  unfold settler
  rw [he, hec]

lemma settler_of_none (hnone : ∀ d ∈ protocolClassifiers, ¬ d.Accepts http ctx data true) :
    settler http ctx data true = some .tcpUnknown := by
  unfold settler
  rw [find_none hnone]
  exact if_pos (.inl rfl)

lemma outcomeOf_protocol (h : settler http ctx data complete = some c) :
    (outcomeOf http ctx c data complete).1 = c.protocol := by
  rcases settler_cases h with ⟨_, result, hr⟩ | ⟨rfl, hall⟩
  · rw [outcomeOf_eq hr]
    exact reader_protocol hr
  rw [outcomeOf_unknown]
  · rfl
  · by_contra hnot
    push Not at hnot
    obtain ⟨rfl, hcomplete⟩ := hnot
    rw [Bool.eq_false_iff.mpr hcomplete, settler_nil] at h
    cases h

/-- A classifier settles the first bytes of the stream, and one that is asked before it accepts
the whole of what a run can see. -/
def Overtaken (http : RequestReader) (ctx : TCPClassifyContext) (stream : List UInt8) : Prop :=
  ∃ data c d, data <+: stream ∧ data.length < ctx.limit ∧ settler http ctx data false = some c ∧
    TCPClassifier.rank d < c.rank ∧ d.Accepts http ctx (seen ctx stream) true

lemma isPrefix_seen (h : data <+: stream) (hlimit : data.length < ctx.limit) :
    data <+: seen ctx stream :=
  prefix_take_iff.mpr ⟨h, hlimit.le⟩

/-- Without overtaking, a settled prefix is settled as the whole is. -/
lemma settled_as_seen (h : ¬ Overtaken http ctx stream) (hdata : data <+: stream)
    (hlimit : data.length < ctx.limit) (hc : settler http ctx data false = some c) :
    settler http ctx (seen ctx stream) true = some c ∧
      outcomeOf http ctx c data false = outcomeOf http ctx c (seen ctx stream) true := by
  have hprefix := isPrefix_seen hdata hlimit
  have hfirst : ∀ d : TCPClassifier, d.rank < c.rank →
    ¬ d.Accepts http ctx (seen ctx stream) true :=
    fun d hd haccepts => h ⟨data, c, d, hdata, hlimit, hc, hd, haccepts⟩
  rcases settler_cases hc with ⟨hmem, result, hr⟩ | ⟨rfl, hall⟩
  · have hr' : c.reader http ctx (seen ctx stream) true = .matched result :=
      (reader_keeps http ctx hmem).matched hprefix hlimit hr
    exact ⟨settler_of_first hmem ⟨result, hr'⟩ hfirst, by rw [outcomeOf_eq hr, outcomeOf_eq hr']⟩
  have hall : ∀ d ∈ protocolClassifiers, d.reader http ctx data false = .noMatch := by
    simpa using hall
  have hnone : ∀ d ∈ protocolClassifiers, ¬ d.Accepts http ctx (seen ctx stream) true := by
    intro d hd
    by_cases hhttp : d = .httpRequest
    · subst hhttp
      exact hfirst _ (by decide)
    rintro ⟨result, hr⟩
    have hno : d.reader http ctx (seen ctx stream) true = .noMatch :=
      (reader_settles http ctx hd hhttp).noMatch hprefix hlimit (hall d hd)
    rw [hno] at hr
    cases hr
  have hne : data ≠ [] := by
    rintro rfl
    rw [settler_nil] at hc
    cases hc
  refine ⟨settler_of_none hnone, ?_⟩
  rw [outcomeOf_unknown (.inl hne), outcomeOf_unknown (.inr rfl)]

/-- Non-empty reads that give the stream. -/
structure Splits (stream : List UInt8) (reads : List (List UInt8)) : Prop where
  nonempty : ∀ bytes ∈ reads, bytes ≠ []
  whole : reads.flatten = stream

lemma splits_single (h : stream ≠ []) : Splits stream [stream] :=
  ⟨by simpa using h, by simp⟩

lemma splits_first (h : data ≠ []) (rest : List UInt8) :
    Splits (data ++ rest) (data :: if rest = [] then [] else [rest]) := by
  split
  · rename_i hempty
    exact ⟨by simpa using h, by simp [hempty]⟩
  · rename_i hrest
    exact ⟨by simp [h, hrest], by simp⟩

def classifyReads (http : RequestReader) (ctx : TCPClassifyContext) (reads : List (List UInt8)) :
    Except ClassifyError Outcome :=
  (classifyTCP http defaultTCPClassifiers ctx (reads.map .data)).map outcome

def newContext (origIP : Option IP) (origPort headerLimit : Int) : TCPClassifyContext :=
  { origIP, origPort, headerLimit }

lemma limit_pos (ctx : TCPClassifyContext) : 0 < ctx.limit := by
  unfold TCPClassifyContext.limit defaultTCPHeaderLimit
  split <;> omega

structure Unread (ctx : TCPClassifyContext) : Prop where
  peeked : ctx.peeked = []
  isOpen : ctx.isComplete = false

lemma classifyReads_ends {reads : List (List UInt8)} (hnew : Unread ctx) (h : Splits stream reads) :
    ∃ data complete c, classifyReads http ctx reads = .ok (outcomeOf http ctx c data complete) ∧
      settler http ctx data complete = some c ∧
      (complete = false ∧ (∃ k, data = (reads.take k).flatten) ∧ data.length < ctx.limit ∨
        complete = true ∧ data = seen ctx stream) := by
  obtain ⟨result, data, complete, c, hresult, hc, houtcome, hends⟩ :=
    @run_ends http ctx _ stream reads ⟨rfl, rfl, rfl⟩ hnew.isOpen
      (by rw [hnew.peeked]; exact limit_pos _)
      h.nonempty (by rw [hnew.peeked]; exact h.whole.symm)
  rw [hnew.peeked] at hends
  refine ⟨data, complete, c, ?_, hc, hends⟩
  rw [classifyReads, hresult, ← houtcome]
  rfl

/-- The first read leads to its bytes, up to the limit. -/
lemma classifyTCP_first {bytes : List UInt8} (hnew : Unread ctx) (hne : bytes ≠ [])
    (reads : List ConnRead) : ∃ ctx', SameOrigin ctx ctx' ∧ ctx'.peeked = seen ctx bytes ∧
      (ctx'.isComplete = true ↔ ctx.limit ≤ bytes.length) ∧
      classifyTCP http defaultTCPClassifiers ctx (.data bytes :: reads) =
        classifyTCP http defaultTCPClassifiers ctx' reads := by
  have hsame : SameOrigin ctx ctx := ⟨rfl, rfl, rfl⟩
  have hpos := limit_pos ctx
  obtain ⟨hpeeked, hdone⟩ := readMore_data hnew.isOpen (by rwa [hnew.peeked]) bytes
  rw [hnew.peeked, nil_append] at hpeeked hdone
  refine ⟨_, hsame.readMore (.data bytes), hpeeked, hdone, ?_⟩
  apply unsettled_reads hsame
  · rw [hnew.peeked, hnew.isOpen, settler_nil]
  rw [hpeeked, hnew.peeked]
  intro hempty
  rcases take_eq_nil_iff.mp hempty with hzero | hnil
  · omega
  · exact hne hnil

lemma settled_first_read {bytes : List UInt8} (hnew : Unread ctx) (hne : bytes ≠ [])
    (hlimit : bytes.length < ctx.limit) (hc : settler http ctx bytes false = some c)
    (reads : List (List UInt8)) :
    classifyReads http ctx (bytes :: reads) = .ok (outcomeOf http ctx c bytes false) := by
  obtain ⟨ctx', hsame, hpeeked, hdone, hfirst⟩ :=
    @classifyTCP_first http _ _ hnew hne (reads.map .data)
  have hcomplete : ctx'.isComplete = false := by
    rw [Bool.eq_false_iff]
    exact fun hd => absurd (hdone.mp hd) (by omega)
  rw [seen, take_of_length_le hlimit.le] at hpeeked
  obtain ⟨result, hresult, houtcome⟩ :=
    @settled_ends http _ ctx' c hsame (by rw [hpeeked, hcomplete, hc]) (reads.map .data)
  rw [hpeeked, hcomplete] at houtcome
  rw [classifyReads, map_cons, hfirst, hresult, ← houtcome]
  rfl

lemma single_read (hnew : Unread ctx) (hne : stream ≠ []) :
    ∃ complete c, classifyReads http ctx [stream] =
        .ok (outcomeOf http ctx c (seen ctx stream) complete) ∧
      settler http ctx (seen ctx stream) complete = some c ∧
      (complete = false → stream.length < ctx.limit) := by
  obtain ⟨data, complete, c, hrun, hc, hends⟩ :=
    @classifyReads_ends http ctx stream _ hnew (splits_single hne)
  rcases hends with ⟨rfl, ⟨k, hdata⟩, hlimit⟩ | ⟨rfl, rfl⟩
  · cases k with
    | zero =>
      rw [hdata, take_zero, flatten_nil, settler_nil] at hc
      cases hc
    | succ k =>
      obtain rfl : data = stream := by simpa using hdata
      rw [seen, take_of_length_le hlimit.le]
      exact ⟨false, c, hrun, hc, fun _ => hlimit⟩
  · exact ⟨true, c, hrun, hc, nofun⟩

/-- For every stream and limit: every two ways to split the stream into reads lead to the same
protocol and host, known or unknown, exactly when no classifier that has settled the first bytes is
overtaken by one that is asked before it and accepts the whole. -/
theorem classification_ignores_the_reads_unless_overtaken (http : RequestReader)
    (origIP : Option IP) (origPort headerLimit : Int) (stream : List UInt8) :
    (∀ reads reads', Splits stream reads → Splits stream reads' →
      classifyReads http (newContext origIP origPort headerLimit) reads =
        classifyReads http (newContext origIP origPort headerLimit) reads') ↔
      ¬ Overtaken http (newContext origIP origPort headerLimit) stream := by
  have hnew : Unread (newContext origIP origPort headerLimit) := ⟨rfl, rfl⟩
  generalize newContext origIP origPort headerLimit = ctx at hnew ⊢
  constructor
  · rintro hagree ⟨data, c, d, ⟨rest, rfl⟩, hlimit, hc, hrank, haccepts⟩
    have hne : data ≠ [] := by
      rintro rfl
      rw [settler_nil] at hc
      cases hc
    have hmem : d ∈ protocolClassifiers :=
      rank_lt_iff.mp (lt_of_lt_of_le hrank idxOf_le_length)
    obtain ⟨complete, e, hsingle, he, hopen⟩ :=
      @single_read http _ (data ++ rest) hnew (by simp [hne])
    -- the single read is settled no later than by the one that overtakes
    have hle : e.rank ≤ d.rank := by
      refine settler_first he ?_ hmem
      cases complete with
      | true => exact haccepts
      | false =>
        obtain ⟨result, hr⟩ := haccepts
        refine ⟨result, (reader_keeps http _ hmem).early ?_ hr⟩
        exact lt_of_le_of_lt (length_take_le' _ _) (hopen rfl)
    have hfirst := settled_first_read hnew hne hlimit hc (if rest = [] then [] else [rest])
    have heq := hagree _ _ (splits_first hne rest) (splits_single (by simp [hne]))
    rw [hfirst, hsingle] at heq
    have hproto := congrArg Prod.fst (Except.ok.inj heq)
    rw [outcomeOf_protocol hc, outcomeOf_protocol he] at hproto
    rw [protocol_injective hproto] at hrank
    omega
  · intro hnot
    have hall : ∀ reads, Splits stream reads →
      ∃ c, settler http ctx (seen ctx stream) true = some c ∧
        classifyReads http ctx reads = .ok (outcomeOf http ctx c (seen ctx stream) true) := by
      intro reads hreads
      obtain ⟨data, complete, c, hrun, hc, hends⟩ := classifyReads_ends hnew hreads
      rcases hends with ⟨rfl, ⟨k, rfl⟩, hlimit⟩ | ⟨rfl, rfl⟩
      · have htake : reads.take k <+: reads := take_prefix k reads
        have hdata : (reads.take k).flatten <+: stream := hreads.whole ▸ htake.flatten
        obtain ⟨hc', houtcome⟩ := settled_as_seen hnot hdata hlimit hc
        exact ⟨c, hc', by rw [hrun, houtcome]⟩
      · exact ⟨c, hc, hrun⟩
    intro reads reads' hreads hreads'
    obtain ⟨c, hc, hrun⟩ := hall reads hreads
    obtain ⟨c', hc', hrun'⟩ := hall reads' hreads'
    cases Option.some.inj (hc.symm.trans hc')
    rw [hrun, hrun']

/-- A request whose host is always `a.io`. -/
def oneHost : RequestReader where
  readRequest _ := some (lit "a.io")
  stops _ _ _ := rfl

/-- The same request in one read, and with a cut before `HTTP/1.1`. The cut hides the host and the
protocol. -/
theorem cut_request_is_unknown : Splits (lit "GET /index.html HTTP/1.1\r\nHost: a.io\r\n\r\n")
        [lit "GET /index.html HTTP/1.1\r\nHost: a.io\r\n\r\n"] ∧
      Splits (lit "GET /index.html HTTP/1.1\r\nHost: a.io\r\n\r\n")
        [lit "GET /index.html ", lit "HTTP/1.1\r\nHost: a.io\r\n\r\n"] ∧
      classifyReads oneHost (newContext none 80 0)
          [lit "GET /index.html HTTP/1.1\r\nHost: a.io\r\n\r\n"] =
        .ok (lit "http", lit "a.io", false) ∧
      classifyReads oneHost (newContext none 80 0)
          [lit "GET /index.html ", lit "HTTP/1.1\r\nHost: a.io\r\n\r\n"] =
        .ok (lit "unknown", [], true) := by
  refine ⟨⟨by decide +kernel, by decide +kernel⟩, ⟨by decide +kernel, by decide +kernel⟩, ?_, ?_⟩
  · decide +kernel
  · decide +kernel

/-! ## The client's connection -/

/-- The error with which a read of the connection comes back. -/
inductive ConnError where
  | timeout
  | failed (err : ReadError)

/-- The answer to one read: how many bytes come, and the error that comes with them. -/
structure ConnAnswer where
  count : Nat
  err : Option ConnError

/-- A read that succeeds with no bytes. -/
def ConnAnswer.Empty (answer : ConnAnswer) : Prop := answer.count = 0 ∧ answer.err = none

/-- What the `Prefix` of a request holds after `Apply`; it is empty without one. -/
def ClassificationResult.installed (r : ClassificationResult) : List UInt8 := r.apply.getD []

/-- The loop and its connection: what is still unread of the client's stream, and how many reads
have been made. -/
structure Peeking where
  ctx : TCPClassifyContext
  unread : List UInt8
  reads : Nat := 0

namespace Peeking

/-- `readMore` on a connection whose answers are `conn`. Bytes and an error can come together. -/
def readMore (conn : Nat → ConnAnswer) (s : Peeking) : Peeking :=
  let remaining := s.ctx.limit - s.ctx.peeked.length
  if remaining = 0 then { s with ctx := { s.ctx with limitReached := true, readDone := true } }
  else
    let answer := conn s.reads
    let n := min answer.count remaining
    let ctx := { s.ctx with peeked := s.ctx.peeked ++ s.unread.take n }
    let ctx :=
      if ctx.peeked.length ≥ s.ctx.limit then { ctx with limitReached := true, readDone := true }
      else ctx
    let ctx := match answer.err with
      | none => ctx
      | some .timeout => { ctx with timedOut := true, readDone := true }
      | some (.failed err) => { ctx with readErr := some err, readDone := true }
    { ctx, unread := s.unread.drop n, reads := s.reads + 1 }

/-- The loop of `classifyTCP`, for at most so many rounds. -/
def classifyTCP (http : RequestReader) (classifiers : List TCPClassifier)
    (conn : Nat → ConnAnswer) :
    Nat → Peeking → Option (Except ClassifyError ClassificationResult × Peeking)
  | 0, _ => none
  | rounds + 1, s =>
    match classifyRound http s.ctx classifiers false none with
    | .result result => some (.ok result, s)
    | .noMatch => some (.error .noClassifierMatched, s)
    | .readMore =>
      let s' := s.readMore conn
      if s'.ctx.peeked = s.ctx.peeked ∧ s'.ctx.isComplete = false then some (.error .noProgress, s')
      else classifyTCP http classifiers conn rounds s'

variable {http : RequestReader} {classifiers : List TCPClassifier} {conn : Nat → ConnAnswer}
  {s s' : Peeking} {stream : List UInt8}

/-- A round asks for more bytes only while more can come. -/
lemma incomplete_of_round {ctx : TCPClassifyContext} {needMore : Bool}
    {fallback : Option ClassificationResult}
    (h : classifyRound http ctx classifiers needMore fallback = .readMore) :
    ctx.isComplete = false := by
  induction classifiers generalizing needMore fallback with unfold classifyRound at h
  | nil =>
    split at h <;> split at h <;> simp_all
  | cons c cs ih =>
    split at h
    · split at h
      · exact ih h
      · cases h
    · exact ih h
    · exact ih h

/-- Every classifier installs what is buffered. -/
lemma installed_of_classify {c : TCPClassifier} {ctx : TCPClassifyContext}
    {r : ClassificationResult} (h : c.classify http ctx = .matched r) :
    r.installed = ctx.peeked := by
  unfold ClassificationResult.installed
  rw [(classify_matched_iff.mp h).2]
  cases c with
  | tcpUnknown => by_cases hnil : ctx.peeked = [] <;> simp [TCPClassifier.apply, hnil]
  | _ => rfl

lemma installed_of_round {ctx : TCPClassifyContext} {needMore : Bool}
    {fallback : Option ClassificationResult} {r : ClassificationResult}
    (hfallback : ∀ r ∈ fallback, r.installed = ctx.peeked)
    (h : classifyRound http ctx classifiers needMore fallback = .result r) :
    r.installed = ctx.peeked := by
  induction classifiers generalizing needMore fallback with unfold classifyRound at h
  | nil =>
    split at h
    · split at h
      · cases h
        exact hfallback r rfl
      · cases h
    · split at h <;> cases h
  | cons c cs ih =>
    split at h
    · rename_i hmatched
      split at h
      · refine ih ?_ h
        rintro _ ⟨⟩
        exact installed_of_classify hmatched
      · cases h
        exact installed_of_classify hmatched
    · exact ih hfallback h
    · exact ih hfallback h

lemma classify_unknown_cases (http : RequestReader) (ctx : TCPClassifyContext) :
    (TCPClassifier.tcpUnknown.classify http ctx = .needMore ∧ ctx.isComplete = false) ∨
      ∃ r, TCPClassifier.tcpUnknown.classify http ctx = .matched r := by
  simp only [TCPClassifier.classify, TCPClassifier.reader]
  by_cases h : ctx.peeked = [] ∧ ctx.isComplete = false
  · rw [if_pos h]
    exact .inl ⟨rfl, h.2⟩
  · rw [if_neg h]
    exact .inr ⟨_, rfl⟩

/-- A round that can fall back on the unknown result, or on more bytes, does not give up. -/
lemma round_ne_noMatch {ctx : TCPClassifyContext} {needMore : Bool}
    {fallback : Option ClassificationResult}
    (h : fallback.isSome ∨ (needMore = true ∧ ctx.isComplete = false) ∨ .tcpUnknown ∈ classifiers) :
    classifyRound http ctx classifiers needMore fallback ≠ .noMatch := by
  induction classifiers generalizing needMore fallback with unfold classifyRound
  | nil => split <;> split <;> simp_all
  | cons c cs ih =>
    have hunknown := classify_unknown_cases http ctx
    split
    · split
      · exact ih (.inl rfl)
      · simp
    · refine ih ?_
      grind
    · refine ih ?_
      grind

lemma readMore_spec (conn : Nat → ConnAnswer) (s : Peeking) :
    ∃ n ≤ s.ctx.limit - s.ctx.peeked.length,
      (s.readMore conn).ctx.peeked = s.ctx.peeked ++ s.unread.take n ∧
      (s.readMore conn).unread = s.unread.drop n ∧ (s.readMore conn).ctx.limit = s.ctx.limit ∧
      ((s.readMore conn).reads = s.reads ∨
        (s.readMore conn).reads = s.reads + 1 ∧ s.ctx.peeked.length < s.ctx.limit ∧
          n ≤ (conn s.reads).count) := by
  unfold readMore
  dsimp only
  split
  · exact ⟨0, by omega, by simp, by simp, rfl, .inl rfl⟩
  · refine ⟨min (conn s.reads).count _, min_le_right _ _, ?_⟩
    split <;> split <;> exact ⟨rfl, rfl, rfl, .inr ⟨rfl, by omega, min_le_left _ _⟩⟩

lemma readMore_of_empty (hempty : (conn s.reads).Empty)
    (hlimit : s.ctx.peeked.length < s.ctx.limit) : (s.readMore conn).ctx = s.ctx := by
  unfold readMore
  simp [hempty.1, hempty.2, Nat.sub_eq_zero_iff_le, hlimit.not_ge]

/-- A read after which the loop gives up: it has succeeded, with no bytes. -/
lemma readMore_stuck (hpeeked : (s.readMore conn).ctx.peeked = s.ctx.peeked)
    (hopen : (s.readMore conn).ctx.isComplete = false) :
    (s.readMore conn).reads = s.reads + 1 ∧ (conn s.reads).err = none ∧
      ((conn s.reads).count = 0 ∨ (s.readMore conn).unread = []) := by
  unfold readMore at hpeeked hopen ⊢
  dsimp only at hpeeked hopen ⊢
  split at hopen
  · simp [TCPClassifyContext.isComplete] at hopen
  rename_i hroom
  simp only [if_neg hroom] at hpeeked ⊢
  cases herr : (conn s.reads).err with
  | some err => cases err <;> simp [herr, TCPClassifyContext.isComplete] at hopen
  | none =>
    have htake : s.unread.take
      (min (conn s.reads).count (s.ctx.limit - s.ctx.peeked.length)) = [] := by
      simp only [herr] at hpeeked
      split at hpeeked <;> exact append_right_eq_self.mp hpeeked
    refine ⟨trivial, rfl, ?_⟩
    rcases take_eq_nil_iff.mp htake with hzero | hnil
    · left
      omega
    · right
      rw [hnil, drop_nil]

/-- What is peeked and what is unread make up the stream, and what is peeked keeps to the limit. -/
structure Sound (stream : List UInt8) (s : Peeking) : Prop where
  whole : s.ctx.peeked ++ s.unread = stream
  bound : s.ctx.peeked.length ≤ s.ctx.limit

lemma Sound.readMore (h : Sound stream s) : Sound stream (s.readMore conn) := by
  obtain ⟨n, hn, hpeeked, hunread, hlimit, -⟩ := readMore_spec conn s
  have hbound := h.bound
  refine ⟨?_, ?_⟩
  · rw [hpeeked, hunread, append_assoc, take_append_drop, h.whole]
  · rw [hpeeked, hlimit, length_append, length_take]
    omega

/-- How many reads the loop can still make. -/
def left (s : Peeking) : Nat :=
  if s.ctx.isComplete then 0 else s.ctx.limit - s.ctx.peeked.length + 1

/-- A read after which the loop goes on leaves fewer of them. -/
lemma left_readMore (hopen : s.ctx.isComplete = false)
    (h : ¬ ((s.readMore conn).ctx.peeked = s.ctx.peeked ∧
      (s.readMore conn).ctx.isComplete = false)) :
    (s.readMore conn).left < s.left := by
  obtain ⟨n, hn, hpeeked, -, hlimit, -⟩ := readMore_spec conn s
  have hs : s.left = s.ctx.limit - s.ctx.peeked.length + 1 := if_neg (by simp [hopen])
  rw [hs]
  unfold left
  split
  · omega
  · rename_i hcomplete
    have htake : s.unread.take n ≠ [] := by
      intro hnil
      rw [hnil, append_nil] at hpeeked
      exact h ⟨hpeeked, Bool.eq_false_iff.mpr hcomplete⟩
    have hpos := length_pos_iff.mpr htake
    have hle := length_take_le n s.unread
    rw [hlimit, hpeeked, length_append]
    omega

/-- The last read has succeeded, with no bytes or at the end of the stream. -/
def LastEmpty (conn : Nat → ConnAnswer) (s : Peeking) : Prop :=
  ∃ k, s.reads = k + 1 ∧ (conn k).err = none ∧ ((conn k).count = 0 ∨ s.unread = [])

/-- What the loop comes back with from `s`. -/
structure Returns (classifiers : List TCPClassifier) (conn : Nat → ConnAnswer)
    (stream : List UInt8) (s : Peeking) (out : Except ClassifyError ClassificationResult)
    (s' : Peeking) : Prop where
  sound : Sound stream s'
  limit : s'.ctx.limit = s.ctx.limit
  reads : s'.reads ≤ s.reads + s.left
  installed : ∀ result, out = .ok result → result.installed = s'.ctx.peeked
  settled : .tcpUnknown ∈ classifiers → out ≠ .error .noClassifierMatched
  stuck : out = .error .noProgress → LastEmpty conn s'
  progress : ∀ k, s.reads ≤ k → k < s'.reads → (conn k).Empty → out = .error .noProgress

lemma classifyTCP_returns (rounds : Nat) (hsound : Sound stream s) (hleft : s.left < rounds) :
    ∃ out s', classifyTCP http classifiers conn rounds s = some (out, s') ∧
      Returns classifiers conn stream s out s' := by
  induction rounds generalizing s with
  | zero => omega
  | succ rounds ih =>
    unfold classifyTCP
    split
    · rename_i hround
      refine ⟨_, _, rfl, hsound, rfl, by omega, ?_, by simp, by simp, fun _ hk hlt => by omega⟩
      rintro _ ⟨⟩
      exact installed_of_round (by simp) hround
    · rename_i hround
      refine ⟨_, _, rfl, hsound, rfl, by omega, by simp, ?_, by simp, fun _ hk hlt => by omega⟩
      exact fun hmem => absurd hround (round_ne_noMatch (.inr (.inr hmem)))
    · rename_i hround
      have hopen := incomplete_of_round hround
      obtain ⟨n, -, -, -, hlimit, hreads⟩ := readMore_spec conn s
      have hone : 1 ≤ s.left := by
        unfold left
        rw [hopen]
        simp
      dsimp only
      split
      · rename_i hempty
        refine ⟨_, _, rfl, hsound.readMore, hlimit, by omega, by simp, by simp, fun _ => ?_,
          fun _ _ _ _ => rfl⟩
        exact ⟨_, readMore_stuck hempty.1 hempty.2⟩
      · rename_i hmoves
        have hless := left_readMore hopen hmoves
        obtain ⟨out, s', hrun, hret⟩ := ih hsound.readMore (hless.trans_le (by omega))
        refine ⟨out, s', hrun, hret.sound, hret.limit.trans hlimit, ?_, hret.installed,
          hret.settled, hret.stuck, ?_⟩
        · have := hret.reads
          omega
        · intro k hk hlt hempty
          rcases lt_or_ge k (s.readMore conn).reads with hbefore | hafter
          · -- the empty answer came to this very read, which then made no progress
            obtain rfl : k = s.reads := by omega
            have hsame := readMore_of_empty hempty (by omega)
            exact absurd ⟨by rw [hsame], by rw [hsame, hopen]⟩ hmoves
          · exact hret.progress k hafter hlt hempty

/-- The first round of the classifiers asks for bytes. -/
lemma first_round (http : RequestReader) (origIP : Option IP) (origPort headerLimit : Int) :
    classifyRound http { origIP, origPort, headerLimit } defaultTCPClassifiers false none =
      .readMore := by
  have hround := @round_spec http { origIP, origPort, headerLimit } _ ⟨rfl, rfl, rfl⟩
  have hnone : settler http { origIP, origPort, headerLimit } [] false = none := settler_nil http _
  simpa [TCPClassifyContext.isComplete, hnone] using hround

/-- The classification of a connection comes back after at most two reads more than its header
limit, whatever the connection answers. What the `Apply` of a result installs and what is unread
make up the client's stream. With the unknown classifier it comes back with a result, unless a
read succeeds with no bytes; an endless run of such reads ends in the error for that. -/
theorem classification_loses_no_byte (http : RequestReader) (classifiers : List TCPClassifier)
    (conn : Nat → ConnAnswer) (origIP : Option IP) (origPort headerLimit : Int)
    (stream : List UInt8) :
    let ctx : TCPClassifyContext := { origIP, origPort, headerLimit }
    ∃ out s, classifyTCP http classifiers conn (ctx.limit + 2) { ctx, unread := stream } =
        some (out, s) ∧
      s.reads ≤ ctx.limit + 2 ∧
      (∀ result, out = .ok result → result.installed ++ s.unread = stream) ∧
      stream.length ≤ s.unread.length + ctx.limit ∧
      (∀ k < s.reads, (conn k).Empty → out = .error .noProgress) ∧
      (.tcpUnknown ∈ classifiers →
        (∃ result, out = .ok result) ∨ out = .error .noProgress ∧ s.LastEmpty conn) ∧
      (classifiers = defaultTCPClassifiers → (∀ k, (conn k).Empty) → out = .error .noProgress) := by
  intro ctx
  have hsound : Sound stream { ctx, unread := stream } := ⟨rfl, zero_le _⟩
  have hleft : left { ctx, unread := stream } = ctx.limit + 1 := rfl
  obtain ⟨out, s, hrun, hret⟩ :=
    @classifyTCP_returns http classifiers conn _ _ (ctx.limit + 2) hsound (by omega)
  refine ⟨out, s, hrun, ?_, ?_, ?_, fun k hk => hret.progress k (by simp) hk, ?_, ?_⟩
  · have hreads := hret.reads
    rw [hleft] at hreads
    simp only at hreads
    omega
  · intro result hresult
    rw [hret.installed result hresult, hret.sound.whole]
  · have hbound := hret.sound.bound
    rw [hret.limit] at hbound
    rw [← hret.sound.whole, length_append]
    simp only at hbound
    omega
  · intro hunknown
    rcases out with (_ | _) | result
    · exact absurd rfl (hret.settled hunknown)
    · exact .inr ⟨rfl, hret.stuck rfl⟩
    · exact .inl ⟨result, rfl⟩
  · rintro rfl hempty
    have hsame := readMore_of_empty (s := { ctx, unread := stream }) (hempty 0) (limit_pos ctx)
    unfold classifyTCP at hrun
    rw [first_round] at hrun
    simp only [hsame, true_and] at hrun
    rw [if_pos (show ctx.isComplete = false from rfl)] at hrun
    cases hrun
    rfl

end Peeking

end sandbox0.netd.proxy
