import Tungstenite.Deflate.Answer

/-!
# A tungstenite client and a tungstenite server negotiate

* `onResponse_render`: the client accepts every answer whose parameters are of
  distinct kinds and carry windows it can read, and sets its resets from the
  context-takeover parameters;
* `onResponse_duplicate`: an answer that repeats a parameter's kind fails
  with the error naming it, and leaves the extension enabled with what the
  client read before the repeat;
* `client_accepts_server_answer`: whatever offer of distinct kinds the server
  reads, the client accepts the server's answer whenever the server enables
  the extension;
* `negotiation_agrees`: the server answers the client's own offer, both enable
  the extension, and each side resets its decompressor exactly when the other
  resets its compressor, the resets they started with aside;
* `negotiated_windows`: in that negotiation each side's codecs keep 15 bits
  unless the other side's window is below its own, so each compressor fits
  the other side's decompressor exactly when the two windows are equal.
-/

namespace Tungstenite

namespace DeflateExt

/-! ## The client reads the answer -/

/-- The client's decompressor after reading a parameter:
`client_max_window_bits` rebuilds it with its window, `8` read as `9`, unless
that is the client's own maximum (`parse_window_parameter`). -/
def responseInflator (maxWindowBits : UInt8) (i : Inflator) : Param → Inflator
  | .clientMaxWindowBits (some b) =>
    let b := if b = 8 then 9 else b
    if b != maxWindowBits then Inflator.newWithWindowBits b else i
  | _ => i

/-- The client's compressor after reading a parameter: `server_max_window_bits`
rebuilds it likewise. -/
def responseDeflator (level : Compression) (maxWindowBits : UInt8) (d : Deflator) : Param → Deflator
  | .serverMaxWindowBits b =>
    let b := if b = 8 then 9 else b
    if b != maxWindowBits then Deflator.newWithWindowBits level b else d
  | _ => d

/-- The client's extension after it reads a parameter of the answer:
`client_no_context_takeover` resets its compressor, `server_no_context_takeover`
its decompressor, and a window rebuilds a codec. -/
def readResponse (ext : DeflateExt) (q : Param) : DeflateExt :=
  { ext with
    config := { ext.config with
      compressReset := ext.config.compressReset || decide (q = .clientNoContextTakeover),
      decompressReset := ext.config.decompressReset || decide (q = .serverNoContextTakeover) },
    inflator := responseInflator ext.config.maxWindowBits ext.inflator q,
    deflator := responseDeflator ext.config.compressionLevel ext.config.maxWindowBits ext.deflator q }

theorem responseParam_space (ext : DeflateExt) (seen : Seen) (p : Param) :
    responseParam ext seen (' ' :: p.text) = responseParam ext seen p.text := by
  simp only [responseParam, Str.trim_cons_space p.isWhitespace_text, Str.trim_of_forall p.isWhitespace_text]

/-- What `parse_window_parameter` returns for a window from 8 to 15. -/
theorem parseWindowParameter_bitsText (ext : DeflateExt) {b : UInt8} (h : 8 ≤ b ∧ b ≤ 15) :
    ext.parseWindowParameter [bitsText b] = .ok (if (if b = 8 then 9 else b) != ext.config.maxWindowBits
      then some (if b = 8 then 9 else b) else none) := by
  simp only [parseWindowParameter, parseU8_trim_bitsText]
  rw [if_pos]
  change 8 ≤ b.toNat ∧ b.toNat ≤ 15 at h
  split
  · rfl
  · rename_i hb
    have hb' : b.toNat ≠ 8 := fun e => hb (UInt8.toNat.inj e)
    simp only [Bool.and_eq_true, decide_eq_true_eq]
    change 9 ≤ b.toNat ∧ b.toNat ≤ 15
    omega

/-- The client reads a parameter of a kind it has not read, with a window it
can read, as `readResponse` does. -/
theorem responseParam_ok (ext : DeflateExt) {seen : Seen} {q : Param} (hs : seen.has q = false)
    (hr : q.Readable) (hc : q = .clientNoContextTakeover → ext.config.acceptNoContextTakeover = true) :
    responseParam ext seen q.text = .ok (readResponse ext q, seen.mark q) := by
  simp only [responseParam, Str.trim_of_forall (Param.isWhitespace_text _), if_neg (Param.text_ne_extName q),
    Param.text_eq_serverNoContextTakeover_iff, Param.text_eq_clientNoContextTakeover_iff,
    Param.startsWith_text_serverMax, Param.startsWith_text_clientMax]
  cases q with
  | clientMaxWindowBits v =>
    have hm : seen.clientMaxWindowBits = false := hs
    simp only [reduceCtorEq, if_false, Param.isServerMax_clientMax, Param.isClientMax_clientMax, if_true, hm,
      Bool.false_eq_true]
    cases v with
    | none =>
      rw [Str.split_of_not_mem (by decide)]
      simp [parseWindowParameter, readResponse, responseInflator, responseDeflator, Seen.mark]
    | some b =>
      rw [Param.text_clientMax_some, split_window (by decide)]
      simp only [List.drop_succ_cons, List.drop_zero, parseWindowParameter_bitsText ext hr]
      by_cases hb : (if b = 8 then 9 else b) = ext.config.maxWindowBits <;>
        simp [hb, readResponse, responseInflator, responseDeflator, Seen.mark]
  | serverMaxWindowBits b =>
    have hm : seen.serverMaxWindowBits = false := hs
    simp only [reduceCtorEq, if_false, Param.isServerMax_serverMax, if_true, hm, Bool.false_eq_true]
    rw [Param.text_serverMax, split_window (by decide)]
    simp only [List.drop_succ_cons, List.drop_zero, parseWindowParameter_bitsText ext hr]
    by_cases hb : (if b = 8 then 9 else b) = ext.config.maxWindowBits <;>
      simp [hb, readResponse, responseInflator, responseDeflator, Seen.mark]
  | serverNoContextTakeover =>
    have hm : seen.serverTakeover = false := hs
    simp [hm, readResponse, responseInflator, responseDeflator, Seen.mark]
  | clientNoContextTakeover =>
    have hm : seen.clientTakeover = false := hs
    simp [hm, hc rfl, readResponse, responseInflator, responseDeflator, Seen.mark]

/-- The client reads parameters of distinct kinds with windows it can read,
each after its blank, as `readResponse` does, and fails on none. -/
theorem responseParams_fresh : ∀ (qs : List Param) (ext : DeflateExt) (seen : Seen), Fresh seen qs →
    (∀ q ∈ qs, q.Readable) → (.clientNoContextTakeover ∈ qs → ext.config.acceptNoContextTakeover = true) →
    responseParams ext seen (qs.map fun q => ' ' :: q.text) =
      (qs.foldl readResponse ext, .ok (qs.foldl Seen.mark seen))
  | [], _, _, _, _, _ => rfl
  | q :: qs, ext, seen, ⟨hs, hf⟩, hr, hc => by
    simp only [List.map_cons, responseParams, responseParam_space, List.foldl_cons,
      responseParam_ok ext hs (hr q (.head _)) fun h => hc (h ▸ .head _)]
    exact responseParams_fresh qs _ _ hf (fun q' h => hr q' (.tail _ h)) fun h => hc (.tail _ h)

/-- Reading parameters sets the resets of the context-takeover ones and
rebuilds the codecs of the windows, keeping the rest of the extension. -/
theorem foldl_readResponse : ∀ (qs : List Param) (ext : DeflateExt), qs.foldl readResponse ext =
    { ext with
      config := { ext.config with
        compressReset := ext.config.compressReset || decide (.clientNoContextTakeover ∈ qs),
        decompressReset := ext.config.decompressReset || decide (.serverNoContextTakeover ∈ qs) },
      inflator := qs.foldl (responseInflator ext.config.maxWindowBits) ext.inflator,
      deflator := qs.foldl (responseDeflator ext.config.compressionLevel ext.config.maxWindowBits) ext.deflator }
  | [], ext => by simp
  | q :: qs, ext => by
    rw [List.foldl_cons, foldl_readResponse qs]
    simp [readResponse, Bool.or_assoc, eq_comm]

/-- Reading a parameter neither depends on whether the extension's name was
read nor changes it. -/
theorem fresh_extensionName : ∀ (qs : List Param) (seen : Seen) (b : Bool),
    Fresh seen qs → Fresh { seen with extensionName := b } qs
  | [], _, _, _ => trivial
  | q :: qs, seen, b, ⟨hs, hf⟩ => by
    refine ⟨by cases q <;> exact hs, ?_⟩
    have := fresh_extensionName qs _ b hf
    cases q <;> exact this

/-- The client reads the extension's name first: it enables the extension. -/
theorem responseParam_extName (ext : DeflateExt) :
    responseParam ext Seen.empty extName = .ok ({ ext with enabled := true }, ⟨true, false, false, false, false⟩) := by
  simp [responseParam, Str.trim_of_forall (s := extName) (by decide), Seen.empty]

/-- The client reads a header value that names the extension and then gives
parameters of distinct kinds with windows it can read,
`client_no_context_takeover` only if it accepts it: it enables the extension
and reads the parameters as `readResponse` does. -/
theorem responseParams_render (ext : DeflateExt) {qs : List Param} (hf : Fresh Seen.empty qs)
    (hr : ∀ q ∈ qs, q.Readable) (hc : .clientNoContextTakeover ∈ qs → ext.config.acceptNoContextTakeover = true) :
    responseParams ext Seen.empty (Str.split (render qs) ';') =
      (qs.foldl readResponse { ext with enabled := true },
        .ok (qs.foldl Seen.mark ⟨true, false, false, false, false⟩)) := by
  simp [split_render, responseParams, responseParam_extName,
    responseParams_fresh qs { ext with enabled := true } ⟨true, false, false, false, false⟩
      (fresh_extensionName qs _ true hf) hr hc]

/-- `on_response` on a response with one extension header reads its parameters. -/
theorem onResponse_one (ext : DeflateExt) {response : HeaderMap} {v : HeaderValue} {s : Str} {ext' : DeflateExt}
    {seen : Seen} (hv : response.getAll secWebsocketExtensions = [v]) (ht : v.toStr = .ok s)
    (h : responseParams ext Seen.empty (Str.split s ';') = (ext', .ok seen)) :
    ext.onResponse response = (ext', .ok ()) := by
  simp [onResponse, hv, responseHeaders, ht, h]

/-- The client accepts every answer that names the extension and then gives
parameters of distinct kinds with windows it can read, `client_no_context_takeover`
only if it accepts it: it enables the extension and sets its resets from the
context-takeover parameters. -/
theorem onResponse_render (ext : DeflateExt) {response : HeaderMap} {v : HeaderValue} {qs : List Param}
    (hv : response.getAll secWebsocketExtensions = [v]) (hchars : v.chars = render qs)
    (hf : Fresh Seen.empty qs) (hr : ∀ q ∈ qs, q.Readable)
    (hc : .clientNoContextTakeover ∈ qs → ext.config.acceptNoContextTakeover = true) :
    ∃ ext', ext.onResponse response = (ext', .ok ()) ∧ ext'.enabled = true ∧
      ext'.config.compressReset = (ext.config.compressReset || decide (.clientNoContextTakeover ∈ qs)) ∧
      ext'.config.decompressReset = (ext.config.decompressReset || decide (.serverNoContextTakeover ∈ qs)) := by
  refine ⟨_, onResponse_one ext hv (toStr_of_render hchars) (responseParams_render ext hf hr hc), ?_⟩
  simp [foldl_readResponse]

/-- An answer that echoes a 10-bit window both ways and
`server_no_context_takeover`, read by a client configured by default. -/
theorem onResponse_render_server_takeover :
    ∃ ext', (new DeflateConfig.default).onResponse ⟨[(secWebsocketExtensions,
        ⟨render [.clientMaxWindowBits (some 10), .serverMaxWindowBits 10, .serverNoContextTakeover], render_valid _⟩)]⟩ =
        (ext', .ok ()) ∧ ext'.enabled = true ∧ ext'.config.compressReset = false ∧
      ext'.config.decompressReset = true :=
  @onResponse_render _ _ _ [.clientMaxWindowBits (some 10), .serverMaxWindowBits 10, .serverNoContextTakeover]
    rfl rfl ⟨rfl, rfl, rfl, trivial⟩ (by simp [Param.Readable]) (by simp)

/-! ## The client rejects a repeated parameter -/

/-- The name of a parameter's kind, as the client's errors give it. -/
def Param.name : Param → String
  | .clientMaxWindowBits _ => "client_max_window_bits"
  | .serverMaxWindowBits _ => "server_max_window_bits"
  | .serverNoContextTakeover => "server_no_context_takeover"
  | .clientNoContextTakeover => "client_no_context_takeover"

/-- The client rejects a parameter of a kind it has read, naming the kind. -/
theorem responseParam_duplicate (ext : DeflateExt) {seen : Seen} {q : Param} (hs : seen.has q = true) :
    responseParam ext seen q.text = .error (duplicateParameter q.name) := by
  simp only [responseParam, Str.trim_of_forall (Param.isWhitespace_text _), if_neg (Param.text_ne_extName q),
    Param.text_eq_serverNoContextTakeover_iff, Param.text_eq_clientNoContextTakeover_iff,
    Param.startsWith_text_serverMax, Param.startsWith_text_clientMax]
  rcases q with (_ | b) | b | _ | _ <;> simp only [Seen.has] at hs <;> simp [hs, Param.name]

/-- The loop over an answer's parameters runs over a prefix, then, if that
read without error, over the rest. -/
theorem responseParams_append : ∀ (ext : DeflateExt) (seen : Seen) (xs ys : List Str),
    responseParams ext seen (xs ++ ys) =
      match responseParams ext seen xs with
      | (ext, .ok seen) => responseParams ext seen ys
      | (ext, .error e) => (ext, .error e)
  | _, _, [], _ => rfl
  | ext, seen, x :: xs, ys => by
    simp only [List.cons_append, responseParams]
    split
    · rfl
    · exact responseParams_append _ _ xs ys

/-- The client reads parameters of distinct kinds up to one whose kind it has
read, and stops there with the error naming it. -/
theorem responseParams_duplicate (ext : DeflateExt) (seen : Seen) {ps rest : List Param} {q : Param}
    (hf : Fresh seen ps) (hr : ∀ p ∈ ps, p.Readable)
    (hc : .clientNoContextTakeover ∈ ps → ext.config.acceptNoContextTakeover = true)
    (hq : (ps.foldl Seen.mark seen).has q = true) :
    responseParams ext seen ((ps ++ q :: rest).map fun p => ' ' :: p.text) =
      (ps.foldl readResponse ext, .error (duplicateParameter q.name)) := by
  rw [List.map_append, responseParams_append, responseParams_fresh ps ext seen hf hr hc]
  simp only [List.map_cons, responseParams, responseParam_space, responseParam_duplicate _ hq]

/-- The client rejects an answer that repeats a parameter's kind, naming that
parameter, but keeps what it read before the repeat: the extension stays
enabled, with the resets and codecs of the parameters before it. -/
theorem onResponse_duplicate (ext : DeflateExt) {response : HeaderMap} {v : HeaderValue} {ps rest : List Param}
    {q : Param} (hv : response.getAll secWebsocketExtensions = [v]) (hchars : v.chars = render (ps ++ q :: rest))
    (hf : Fresh Seen.empty ps) (hr : ∀ p ∈ ps, p.Readable)
    (hc : .clientNoContextTakeover ∈ ps → ext.config.acceptNoContextTakeover = true)
    (hq : (ps.foldl Seen.mark Seen.empty).has q = true) :
    ext.onResponse response =
        (ps.foldl readResponse { ext with enabled := true }, .error (duplicateParameter q.name)) ∧
      (ps.foldl readResponse { ext with enabled := true }).enabled = true := by
  have hq' : (ps.foldl Seen.mark ⟨true, false, false, false, false⟩).has q = true := by
    rw [Seen.has_foldl_mark] at hq ⊢
    cases q <;> exact hq
  refine ⟨?_, by simp [foldl_readResponse]⟩
  simp only [onResponse, hv, responseHeaders, toStr_of_render hchars, split_render, responseParams,
    responseParam_extName]
  rw [responseParams_duplicate { ext with enabled := true } ⟨true, false, false, false, false⟩
    (fresh_extensionName ps _ true hf) hr hc hq']

/-- A client configured by default reads an answer that gives its window
twice: it fails, with the extension enabled and its decompressor rebuilt
with the first window. -/
theorem onResponse_duplicate_client_window :
    ∃ ext', (new DeflateConfig.default).onResponse ⟨[(secWebsocketExtensions,
        ⟨render [.clientMaxWindowBits (some 10), .clientMaxWindowBits (some 12)], render_valid _⟩)]⟩ =
        (ext', .error (duplicateParameter "client_max_window_bits")) ∧ ext'.enabled = true ∧
      ext'.inflator = Inflator.newWithWindowBits 10 := by
  obtain ⟨h, he⟩ := @onResponse_duplicate (new DeflateConfig.default) ⟨[(secWebsocketExtensions,
      ⟨render [.clientMaxWindowBits (some 10), .clientMaxWindowBits (some 12)], render_valid _⟩)]⟩
    ⟨render [.clientMaxWindowBits (some 10), .clientMaxWindowBits (some 12)], render_valid _⟩
    [.clientMaxWindowBits (some 10)] [] (.clientMaxWindowBits (some 12)) rfl rfl ⟨rfl, trivial⟩
    (by simp [Param.Readable]) (by simp) rfl
  exact ⟨_, h, he, rfl⟩

/-! ## The client reads the server's answer -/

/-- A client reads the server's answer to an offer of distinct kinds, given a
server window in [8, 15] and that it accepts `client_no_context_takeover`
when the offer names it or the server asks for it. -/
theorem onResponse_offerAnswer (client : DeflateExt) (response : HeaderMap) {c : DeflateConfig} {qs : List Param}
    (hf : Fresh Seen.empty qs) (hmax : 8 ≤ c.maxWindowBits ∧ c.maxWindowBits ≤ 15)
    (hnct : .clientNoContextTakeover ∈ qs ∨ c.requestNoContextTakeover = true →
      client.config.acceptNoContextTakeover = true) :
    client.onResponse (response.insert secWebsocketExtensions ⟨render (offerAnswer c qs), render_valid _⟩) =
      ((offerAnswer c qs).foldl readResponse { client with enabled := true }, .ok ()) :=
  onResponse_one client (HeaderMap.getAll_insert_self _ _ _) (toStr_of_render rfl)
    (responseParams_render client (offerAnswer_fresh c hf) (offerAnswer_readable hmax qs)
      fun h => hnct ((clientNoContextTakeover_mem_offerAnswer c qs).1 h))

/-- The client resets its compressor after reading the server's answer when
the offer names `client_no_context_takeover` or the server asks for it, and
its decompressor when the offer names `server_no_context_takeover` and the
server accepts it. -/
theorem foldl_readResponse_offerAnswer (client : DeflateExt) (c : DeflateConfig) (qs : List Param) :
    ((offerAnswer c qs).foldl readResponse client).config.compressReset =
        (client.config.compressReset || decide (.clientNoContextTakeover ∈ qs) || c.requestNoContextTakeover) ∧
      ((offerAnswer c qs).foldl readResponse client).config.decompressReset =
        (client.config.decompressReset || decide (.serverNoContextTakeover ∈ qs) && c.acceptNoContextTakeover) := by
  simp [foldl_readResponse, clientNoContextTakeover_mem_offerAnswer, serverNoContextTakeover_mem_offerAnswer,
    Bool.or_assoc]

/-- Whatever offer of distinct kinds a tungstenite server reads, a tungstenite
client accepts the answer whenever the server enables the extension, given a
server window in [8, 15] and that the client accepts
`client_no_context_takeover` when the offer names it or the server asks for
it. The client enables the extension too, and each side's compressor resets
exactly when the other's decompressor does, the resets they started with
aside. -/
theorem client_accepts_server_answer (server client : DeflateExt) {request response : HeaderMap}
    {v : HeaderValue} {qs : List Param} (hreq : request.getAll secWebsocketExtensions = [v])
    (hv : v.chars = render qs) (hf : Fresh Seen.empty qs)
    (hmax : 8 ≤ server.config.maxWindowBits ∧ server.config.maxWindowBits ≤ 15)
    (hnct : .clientNoContextTakeover ∈ qs ∨ server.config.requestNoContextTakeover = true →
      client.config.acceptNoContextTakeover = true) :
    ∃ server' response', server.onReceiveRequest request response = (server', response', .ok ()) ∧
      (server'.enabled = true → ∃ client', client.onResponse response' = (client', .ok ()) ∧
        client'.enabled = true ∧
        server'.config.compressReset = (server.config.compressReset ||
          decide (.serverNoContextTakeover ∈ qs) && server.config.acceptNoContextTakeover) ∧
        client'.config.decompressReset = (client.config.decompressReset ||
          decide (.serverNoContextTakeover ∈ qs) && server.config.acceptNoContextTakeover) ∧
        server'.config.decompressReset = (server.config.decompressReset ||
          decide (.clientNoContextTakeover ∈ qs) || server.config.requestNoContextTakeover) ∧
        client'.config.compressReset = (client.config.compressReset ||
          decide (.clientNoContextTakeover ∈ qs) || server.config.requestNoContextTakeover)) := by
  obtain ⟨r, hc, -, -, hs⟩ := onReceiveRequest_offer server response hreq hv hf
  split at hs
  · obtain ⟨hcr, hdr⟩ := foldl_readResponse_offerAnswer { client with enabled := true } server.config qs
    refine ⟨_, _, hs, fun _ => ⟨_, onResponse_offerAnswer client r.response hf hmax hnct, ?_, ?_, hdr, ?_, hcr⟩⟩ <;>
      simp [hc, foldl_readResponse]
  · exact ⟨_, _, hs, fun h => by simp [decline] at h⟩

/-- A client and a server configured by default, the offer
`client_max_window_bits; client_no_context_takeover`: the client accepts the
answer, and resets its compressor as the server resets its decompressor. -/
theorem client_accepts_server_answer_default :
    ∃ server' response', (new DeflateConfig.default).onReceiveRequest ⟨[(secWebsocketExtensions,
        ⟨render [.clientMaxWindowBits none, .clientNoContextTakeover], render_valid _⟩)]⟩ ⟨[]⟩ =
        (server', response', .ok ()) ∧
      (server'.enabled = true → ∃ client', (new DeflateConfig.default).onResponse response' = (client', .ok ()) ∧
        client'.enabled = true ∧
        server'.config.compressReset = false ∧ client'.config.decompressReset = false ∧
        server'.config.decompressReset = true ∧ client'.config.compressReset = true) :=
  @client_accepts_server_answer (new DeflateConfig.default) (new DeflateConfig.default)
    ⟨[(secWebsocketExtensions, ⟨render [.clientMaxWindowBits none, .clientNoContextTakeover], render_valid _⟩)]⟩
    ⟨[]⟩ _ [.clientMaxWindowBits none, .clientNoContextTakeover] rfl rfl ⟨rfl, rfl, trivial⟩ (by decide) fun _ => rfl

/-! ## The whole negotiation -/

theorem offerParams_fresh (c : DeflateConfig) : Fresh Seen.empty (offerParams c) := by
  unfold offerParams windowOffer
  split <;> split <;> repeat constructor

theorem offerParams_any_isClientMax (c : DeflateConfig) : (offerParams c).any Param.isClientMax = true := by
  unfold offerParams windowOffer
  split <;> rfl

theorem clientNoContextTakeover_not_mem_offerParams (c : DeflateConfig) :
    .clientNoContextTakeover ∉ offerParams c := by
  unfold offerParams windowOffer
  split <;> split <;> simp

theorem serverNoContextTakeover_mem_offerParams (c : DeflateConfig) :
    decide (.serverNoContextTakeover ∈ offerParams c) = c.requestNoContextTakeover := by
  unfold offerParams windowOffer
  split <;> cases c.requestNoContextTakeover <;> simp

/-- A tungstenite client offers `permessage-deflate` on a request with no
extension header, and a tungstenite server whose window lies in [8, 15] reads
the offer: it answers, and the client accepts the answer, given that it accepts
`client_no_context_takeover` when the server asks for it. Both enable the
extension, and each side's compressor resets exactly when the other's
decompressor does, the resets they started with aside. -/
theorem negotiation_agrees (client server : DeflateExt) {request response : HeaderMap}
    (hreq : request.getAll secWebsocketExtensions = [])
    (hmax : 8 ≤ server.config.maxWindowBits ∧ server.config.maxWindowBits ≤ 15)
    (hnct : server.config.requestNoContextTakeover = true → client.config.acceptNoContextTakeover = true) :
    ∃ request' server' response' client',
      client.onMakeRequest request = .ret request' ∧
      server.onReceiveRequest request' response = (server', response', .ok ()) ∧
      client.onResponse response' = (client', .ok ()) ∧
      server'.enabled = true ∧ client'.enabled = true ∧
      server'.config.compressReset = (server.config.compressReset ||
        (client.config.requestNoContextTakeover && server.config.acceptNoContextTakeover)) ∧
      client'.config.decompressReset = (client.config.decompressReset ||
        (client.config.requestNoContextTakeover && server.config.acceptNoContextTakeover)) ∧
      server'.config.decompressReset = (server.config.decompressReset || server.config.requestNoContextTakeover) ∧
      client'.config.compressReset = (client.config.compressReset || server.config.requestNoContextTakeover) := by
  obtain ⟨v, hreq', hv⟩ := onMakeRequest_render client request
  have hget : (request.append secWebsocketExtensions v).getAll secWebsocketExtensions = [v] := by
    simp [hreq]
  obtain ⟨r, hc, -, -, hs⟩ := onReceiveRequest_offer server response hget hv (offerParams_fresh _)
  rw [offerParams_any_isClientMax, Bool.true_or, if_pos rfl] at hs
  obtain ⟨hcr, hdr⟩ := foldl_readResponse_offerAnswer { client with enabled := true } server.config (offerParams client.config)
  refine ⟨_, _, _, _, hreq', hs, onResponse_offerAnswer client r.response (offerParams_fresh _) hmax
    fun h => hnct (h.resolve_left (clientNoContextTakeover_not_mem_offerParams _)), rfl, by simp [foldl_readResponse],
    by simp [hc, serverNoContextTakeover_mem_offerParams], ?_,
    by simp [hc, clientNoContextTakeover_not_mem_offerParams], ?_⟩
  · rw [hdr, serverNoContextTakeover_mem_offerParams]
  · simp [hcr, clientNoContextTakeover_not_mem_offerParams]

/-- A client that asks for no context takeover, and a server with a 12-bit
window that asks for it too: all four codecs reset after every message. -/
theorem negotiation_agrees_both_reset :
    ∃ request' server' response' client',
      (new { DeflateConfig.default with requestNoContextTakeover := true }).onMakeRequest ⟨[]⟩ = .ret request' ∧
      (new { DeflateConfig.default with maxWindowBits := 12, requestNoContextTakeover := true }).onReceiveRequest
        request' ⟨[]⟩ = (server', response', .ok ()) ∧
      (new { DeflateConfig.default with requestNoContextTakeover := true }).onResponse response' =
        (client', .ok ()) ∧
      server'.enabled = true ∧ client'.enabled = true ∧
      server'.config.compressReset = true ∧ client'.config.decompressReset = true ∧
      server'.config.decompressReset = true ∧ client'.config.compressReset = true :=
  negotiation_agrees _ _ rfl (by decide) fun _ => rfl

/-! ## The codecs' windows -/

theorem window_eq_iff {a b : UInt8} : a = b ↔ a.toBitVec.toNat = b.toBitVec.toNat :=
  ⟨fun h => h ▸ rfl, UInt8.toNat.inj⟩

theorem window_lt_trichotomy (a b : UInt8) : a < b ∨ a = b ∨ b < a := by
  simp only [UInt8.lt_def, BitVec.lt_def, window_eq_iff]
  omega

theorem window_not_lt_self (a : UInt8) : ¬a < a := by
  simp only [UInt8.lt_def, BitVec.lt_def]
  omega

theorem window_not_lt_of_lt {a b : UInt8} (h : a < b) : ¬b < a := by
  simp only [UInt8.lt_def, BitVec.lt_def] at *
  omega

theorem window_ne_of_lt {a b : UInt8} (h : a < b) : a ≠ b := by
  simp only [ne_eq, UInt8.lt_def, BitVec.lt_def, window_eq_iff] at *
  omega

theorem window_ne_eight {a : UInt8} (h : 9 ≤ a) : a ≠ 8 := by
  simp only [ne_eq, window_eq_iff, UInt8.le_def, BitVec.le_def, UInt8.toBitVec_ofNat, BitVec.toNat_ofNat] at *
  omega

theorem window_lt_fifteen {a b : UInt8} (h : a < b) (hb : b ≤ 15) : a < 15 := by
  simp only [UInt8.lt_def, UInt8.le_def, BitVec.lt_def, BitVec.le_def, UInt8.toBitVec_ofNat,
    BitVec.toNat_ofNat] at *
  omega

/-- Each window at most the other's, where each side keeps 15 bits unless the
other's window is below its own. -/
theorem windows_fit_iff {a b : UInt8} (ha : 9 ≤ a ∧ a ≤ 15) (hb : 9 ≤ b ∧ b ≤ 15) :
    ((if b < a then b else 15) ≤ (if a < b then a else 15) ∧
      (if a < b then a else 15) ≤ (if b < a then b else 15)) ↔ a = b := by
  rw [window_eq_iff]
  split_ifs <;> simp only [UInt8.le_def, UInt8.lt_def, BitVec.le_def, BitVec.lt_def, UInt8.toBitVec_ofNat,
    BitVec.toNat_ofNat] at * <;> omega

/-- The server reads a tungstenite client's offer with a window from 9 to 15:
it rebuilds both codecs with the client's window when it is below its own, and
keeps them otherwise. -/
theorem foldl_offerParams_codecs {c s : DeflateConfig} (hc : 9 ≤ c.maxWindowBits ∧ c.maxWindowBits ≤ 15)
    (hs : s.maxWindowBits ≤ 15) (i : Inflator) (d : Deflator) :
    (offerParams c).foldl (readInflator s) i =
        (if c.maxWindowBits < s.maxWindowBits then Inflator.newWithWindowBits c.maxWindowBits else i) ∧
      (offerParams c).foldl (readDeflator s) d =
        if c.maxWindowBits < s.maxWindowBits then Deflator.newWithWindowBits s.compressionLevel c.maxWindowBits
        else d := by
  unfold offerParams windowOffer
  split
  · split <;> simp [readInflator, readDeflator, hc.1, hc.2]
  · rename_i h
    have h' : ¬c.maxWindowBits < s.maxWindowBits := by
      simp only [UInt8.lt_def, UInt8.le_def, BitVec.lt_def, BitVec.le_def, UInt8.toBitVec_ofNat,
        BitVec.toNat_ofNat] at *
      omega
    split <;> simp [readInflator, readDeflator, h']

/-- A tungstenite client reads the server's answer to its own offer, both
windows from 9 to 15: the answer names for both codecs the smaller of the two
windows, so the client rebuilds its codecs with the server's window when it is
below its own, and keeps them otherwise. -/
theorem foldl_offerAnswer_codecs {c s : DeflateConfig} (hc : 9 ≤ c.maxWindowBits ∧ c.maxWindowBits ≤ 15)
    (hs : 9 ≤ s.maxWindowBits ∧ s.maxWindowBits ≤ 15) (i : Inflator) (d : Deflator) :
    (offerAnswer s (offerParams c)).foldl (responseInflator c.maxWindowBits) i =
        (if s.maxWindowBits < c.maxWindowBits then Inflator.newWithWindowBits s.maxWindowBits else i) ∧
      (offerAnswer s (offerParams c)).foldl (responseDeflator c.compressionLevel c.maxWindowBits) d =
        if s.maxWindowBits < c.maxWindowBits then Deflator.newWithWindowBits c.compressionLevel s.maxWindowBits
        else d := by
  have h8 := window_ne_eight hc.1
  have h8' := window_ne_eight hs.1
  unfold offerAnswer finishParams offerParams windowOffer
  rcases window_lt_trichotomy c.maxWindowBits s.maxWindowBits with h | h | h
  · simp [h, window_lt_fifteen h hs.2, h8, h8', window_not_lt_of_lt h, hc.1, hc.2, answerParam, responseInflator,
      responseDeflator, apply_ite (List.foldl (responseInflator c.maxWindowBits) _),
      apply_ite (List.foldl (responseDeflator c.compressionLevel c.maxWindowBits) _),
      apply_ite (List.any · Param.isServerMax), apply_ite (List.flatMap · (answerParam s)), List.any_append]
  · split <;> simp [← h, window_not_lt_self, h8, hc.1, hc.2, answerParam, responseInflator, responseDeflator,
      apply_ite (List.foldl (responseInflator c.maxWindowBits) _),
      apply_ite (List.foldl (responseDeflator c.compressionLevel c.maxWindowBits) _),
      apply_ite (List.any · Param.isServerMax), apply_ite (List.flatMap · (answerParam s)), List.any_append]
  · split <;> simp [h, window_not_lt_of_lt h, window_ne_of_lt h, (window_ne_of_lt h).symm, h8', hc.1, hc.2,
      answerParam,
      responseInflator, responseDeflator, apply_ite (List.foldl (responseInflator c.maxWindowBits) _),
      apply_ite (List.foldl (responseDeflator c.compressionLevel c.maxWindowBits) _),
      apply_ite (List.any · Param.isServerMax), apply_ite (List.flatMap · (answerParam s)), List.any_append]

/-- A tungstenite client and a tungstenite server, each built by
`DeflateExt::new` with a window from 9 to 15, negotiate as in
`negotiation_agrees`. Both start their codecs at 15 bits, and a side rebuilds
one only with a window that is not its own maximum: the server's codecs take
the client's window when it is below the server's, the client's take the
server's window when it is below the client's, and all others keep 15 bits.
So each side's compressor works within the window of the other side's
decompressor exactly when the two configured windows are equal. -/
theorem negotiated_windows (c s : DeflateConfig) {request response : HeaderMap}
    (hreq : request.getAll secWebsocketExtensions = [])
    (hc : 9 ≤ c.maxWindowBits ∧ c.maxWindowBits ≤ 15) (hs : 9 ≤ s.maxWindowBits ∧ s.maxWindowBits ≤ 15)
    (hnct : s.requestNoContextTakeover = true → c.acceptNoContextTakeover = true) :
    ∃ request' server' response' client',
      (new c).onMakeRequest request = .ret request' ∧
      (new s).onReceiveRequest request' response = (server', response', .ok ()) ∧
      (new c).onResponse response' = (client', .ok ()) ∧
      server'.inflator.windowBits = (if c.maxWindowBits < s.maxWindowBits then c.maxWindowBits else 15) ∧
      server'.deflator.windowBits = (if c.maxWindowBits < s.maxWindowBits then c.maxWindowBits else 15) ∧
      client'.inflator.windowBits = (if s.maxWindowBits < c.maxWindowBits then s.maxWindowBits else 15) ∧
      client'.deflator.windowBits = (if s.maxWindowBits < c.maxWindowBits then s.maxWindowBits else 15) ∧
      (client'.deflator.windowBits ≤ server'.inflator.windowBits ∧
        server'.deflator.windowBits ≤ client'.inflator.windowBits ↔ c.maxWindowBits = s.maxWindowBits) := by
  obtain ⟨v, hreq', hv⟩ := onMakeRequest_render (new c) request
  have hget : (request.append secWebsocketExtensions v).getAll secWebsocketExtensions = [v] := by
    simp [hreq]
  obtain ⟨r, -, hi, hd, hs'⟩ := onReceiveRequest_offer (new s) response hget hv (offerParams_fresh _)
  rw [offerParams_any_isClientMax, Bool.true_or, if_pos rfl] at hs'
  have hmax : 8 ≤ s.maxWindowBits ∧ s.maxWindowBits ≤ 15 := window_readable hs.1 hs.2
  have hr := @onResponse_offerAnswer (new c) r.response s (offerParams c) (offerParams_fresh c) hmax
    fun h => hnct (h.resolve_left (clientNoContextTakeover_not_mem_offerParams c))
  obtain ⟨hsi, hsd⟩ := foldl_offerParams_codecs hc hs.2 Inflator.new (Deflator.new .fast)
  obtain ⟨hci, hcd⟩ := foldl_offerAnswer_codecs hc hs Inflator.new (Deflator.new .fast)
  have h₁ : r.ext.inflator.windowBits = if c.maxWindowBits < s.maxWindowBits then c.maxWindowBits else 15 := by
    rw [hi]; exact (congrArg Inflator.windowBits hsi).trans (apply_ite _ _ _ _)
  have h₂ : r.ext.deflator.windowBits = if c.maxWindowBits < s.maxWindowBits then c.maxWindowBits else 15 := by
    rw [hd]; exact (congrArg Deflator.windowBits hsd).trans (apply_ite _ _ _ _)
  have h₃ : ((offerAnswer s (offerParams c)).foldl readResponse { new c with enabled := true }).inflator.windowBits =
      if s.maxWindowBits < c.maxWindowBits then s.maxWindowBits else 15 := by
    rw [foldl_readResponse]; exact (congrArg Inflator.windowBits hci).trans (apply_ite _ _ _ _)
  have h₄ : ((offerAnswer s (offerParams c)).foldl readResponse { new c with enabled := true }).deflator.windowBits =
      if s.maxWindowBits < c.maxWindowBits then s.maxWindowBits else 15 := by
    rw [foldl_readResponse]; exact (congrArg Deflator.windowBits hcd).trans (apply_ite _ _ _ _)
  refine ⟨_, _, _, _, hreq', hs', hr, h₁, h₂, h₃, h₄, ?_⟩
  rw [h₁, h₂, h₃, h₄]
  exact windows_fit_iff hc hs

/-- A client configured with a 10-bit window and a server configured by
default: the server decompresses with 10 bits what the client compresses with
15. -/
theorem negotiated_windows_client_ten :
    ∃ request' server' response' client',
      (new { DeflateConfig.default with maxWindowBits := 10 }).onMakeRequest ⟨[]⟩ = .ret request' ∧
      (new DeflateConfig.default).onReceiveRequest request' ⟨[]⟩ = (server', response', .ok ()) ∧
      (new { DeflateConfig.default with maxWindowBits := 10 }).onResponse response' = (client', .ok ()) ∧
      server'.inflator.windowBits = 10 ∧ client'.deflator.windowBits = 15 := by
  obtain ⟨request', server', response', client', h₁, h₂, h₃, hi, -, -, hd, -⟩ :=
    @negotiated_windows { DeflateConfig.default with maxWindowBits := 10 } DeflateConfig.default ⟨[]⟩ ⟨[]⟩
      rfl (by decide) (by decide) fun _ => rfl
  exact ⟨request', server', response', client', h₁, h₂, h₃, hi, hd⟩

end DeflateExt

end Tungstenite
