import Tungstenite.Deflate.Header
import Tungstenite.Deflate.Extension

/-!
# Negotiating permessage-deflate

The negotiation hooks of `DeflateExt` (RFC 7692 §7), as `extensions/deflate.rs`
writes them:

* `onMakeRequest`: the client's offer;
* `onReceiveRequest`: the server reads the offers one header value at a time
  (`receiveParam` for each parameter, `finishOffer` after them) and answers
  the first one it does not skip;
* `onResponse`: the client reads the server's answer (`responseParam`).

The texts they build are always header values
(`negotiation_builds_header_values`): the offer's `unwrap` never panics, and
the server fails only on an offer that is not visible ASCII, never on its own
answer (`Appends`: each parameter grows the answer by text a header value may
hold).

On each side the window parameters rebuild a codec and the context-takeover
parameters set the resets; what they do disagrees with what the answer says:

* `server_answer_disagrees_with_codec`: a server whose window is 12 bits
  answers `server_max_window_bits=12` while its compressor keeps flate2's
  15 bits. Its decompressor also resets after each message, for a
  `client_no_context_takeover` read in an offer it skipped;
* `client_codec_swaps_window_bits`: a client that reads
  `client_max_window_bits=9` rebuilds its decompressor with 9 bits and keeps a
  compressor of 15.
-/

namespace Tungstenite

namespace DeflateExt

/-- `EXT_NAME`. -/
def extName : Str := "permessage-deflate".toList

/-- A window size as `format!` writes it. -/
def bitsText (bits : UInt8) : Str := (toString bits).toList

/-- A window size is written in digits, which a header value may hold. -/
theorem bitsText_valid (b : UInt8) : (bitsText b).all isValueChar = true :=
  Str.all_toDigitsCore (by decide) _ _ rfl

/-- `parse_window_parameter`: the value after the parameter's name, if any,
read as a `u8`; 8 counts as 9; a value in [9, 15] other than the configured
maximum is returned, the maximum itself is `None`. -/
def parseWindowParameter (ext : DeflateExt) (paramIter : List Str) :
    Except String (Option UInt8) :=
  match paramIter with
  | [] => .ok none
  | windowBitsStr :: _ =>
    match Str.parseU8 (Str.trim windowBitsStr) with
    | .error e => .error e
    | .ok windowBits =>
      let windowBits : UInt8 := if windowBits = 8 then 9 else windowBits
      if 9 ≤ windowBits && windowBits ≤ 15 then
        .ok (if windowBits != ext.config.maxWindowBits then some windowBits else none)
      else .error ("Invalid server_max_window_bits parameter: " ++ toString windowBits)

/-- `decline`: disabled, and the header named `permessage-deflate` removed
from the response. -/
def decline (ext : DeflateExt) (res : HeaderMap) : DeflateExt × HeaderMap :=
  ({ ext with enabled := false }, res.remove extName)

/-- `on_make_request`: the offer appended to the request's extension headers;
`unwrap` panics if the offer is not a header value. -/
def onMakeRequest (ext : DeflateExt) (request : HeaderMap) : Outcome HeaderMap :=
  let headerValue := extName ++
    (if ext.config.maxWindowBits < 15 then
      "; client_max_window_bits=".toList ++ bitsText ext.config.maxWindowBits ++
        "; server_max_window_bits=".toList ++ bitsText ext.config.maxWindowBits
    else "; client_max_window_bits".toList) ++
    (if ext.config.requestNoContextTakeover then "; server_no_context_takeover".toList else [])
  match HeaderValue.fromStr headerValue with
  | .ok v => .ret (request.append secWebsocketExtensions v)
  | .error _ => .panic "called Result::unwrap() on an Err value"

/-- The offer is always a header value: `unwrap` never panics, and the offer
is appended to the request. -/
theorem onMakeRequest_ret (ext : DeflateExt) (request : HeaderMap) :
    ∃ v, ext.onMakeRequest request = .ret (request.append secWebsocketExtensions v) := by
  unfold onMakeRequest
  dsimp only
  rw [HeaderValue.fromStr_of_valid]
  · exact ⟨_, rfl⟩
  · split <;> split <;> simp only [List.all_append, List.all_nil, bitsText_valid, Bool.and_true] <;>
      decide

/-! ## The server -/

/-- The locals of `on_receive_request` for one header value: the answer built
so far, and which parameters it has read. -/
structure Offer where
  resExt : Str
  sTakeover : Bool
  cTakeover : Bool
  sMax : Bool
  cMax : Bool

/-- What `on_receive_request` works on while it reads one header value: the
extension, the response and the locals. -/
structure Reading where
  ext : DeflateExt
  response : HeaderMap
  offer : Offer

namespace Reading

/-- `res_ext.push_str`. -/
def push (r : Reading) (s : Str) : Reading := { r with offer.resExt := r.offer.resExt ++ s }

/-- `self.decline(response)`. -/
def decline (r : Reading) : Reading :=
  { r with ext := (r.ext.decline r.response).1, response := (r.ext.decline r.response).2 }

end Reading

/-- The answer `client_max_window_bits=N` with the server's own maximum. -/
def answerMax (r : Reading) : Reading :=
  r.push ("; ".toList ++ "client_max_window_bits=".toList ++ bitsText r.ext.config.maxWindowBits)

/-- A first `server_max_window_bits` of an offer: a value in [9, 15] below the
server's maximum rebuilds the compressor and is echoed; a value that does not
parse or lies outside [9, 15] declines; no value, or one not below the
maximum, is passed over. -/
def receiveServerMaxWindowBits (r : Reading) (param : Str) : Reading :=
  match (Str.split param '=').drop 1 with
  | [] => r
  | windowBitsStr :: _ =>
    match Str.parseU8 (Str.trim windowBitsStr) with
    | .ok windowBits =>
      if 9 ≤ windowBits && windowBits ≤ 15 then
        if windowBits < r.ext.config.maxWindowBits then
          ({ r with ext.deflator := Deflator.newWithWindowBits r.ext.config.compressionLevel windowBits }).push
            ("; ".toList ++ param)
        else r
      else r.decline
    | .error _ => r.decline

/-- A first `client_max_window_bits` of an offer: a value in [9, 15] below the
server's maximum rebuilds the decompressor and is echoed; otherwise the answer
names the server's maximum, after declining for a value that does not parse
or lies outside [9, 15]. -/
def receiveClientMaxWindowBits (r : Reading) (param : Str) : Reading :=
  match (Str.split param '=').drop 1 with
  | [] => answerMax r
  | windowBitsStr :: _ =>
    match Str.parseU8 (Str.trim windowBitsStr) with
    | .ok windowBits =>
      if 9 ≤ windowBits && windowBits ≤ 15 then
        if windowBits < r.ext.config.maxWindowBits then
          ({ r with ext.inflator := Inflator.newWithWindowBits windowBits }).push ("; ".toList ++ param)
        else answerMax r
      else answerMax r.decline
    | .error _ => answerMax r.decline

/-- One parameter of an offer in `on_receive_request`; a parameter given twice
declines, and so does one it does not know. -/
def receiveParam (r : Reading) (param : Str) : Reading :=
  let param := Str.trim param
  if param = extName then r.push extName
  else if param = "server_no_context_takeover".toList then
    if r.offer.sTakeover then r.decline
    else if r.ext.config.acceptNoContextTakeover then
      ({ r with offer.sTakeover := true, ext.config.compressReset := true }).push
        "; server_no_context_takeover".toList
    else { r with offer.sTakeover := true }
  else if param = "client_no_context_takeover".toList then
    if r.offer.cTakeover then r.decline
    else ({ r with offer.cTakeover := true, ext.config.decompressReset := true }).push
      "; client_no_context_takeover".toList
  else if Str.startsWith param "server_max_window_bits".toList then
    if r.offer.sMax then r.decline
    else receiveServerMaxWindowBits { r with offer.sMax := true } param
  else if Str.startsWith param "client_max_window_bits".toList then
    if r.offer.cMax then r.decline
    else receiveClientMaxWindowBits { r with offer.cMax := true } param
  else r.decline

/-- After an offer's parameters: `client_no_context_takeover` added when the
server asks for it and the answer lacks it, and the server's window added when
the answer has none. -/
def finishOffer (r : Reading) : Reading :=
  let r := if !Str.contains r.offer.resExt "client_no_context_takeover".toList &&
      r.ext.config.requestNoContextTakeover then
    ({ r with ext.config.decompressReset := true }).push "; client_no_context_takeover".toList
  else r
  if !Str.contains r.offer.resExt "server_max_window_bits".toList then
    r.push ("; ".toList ++ "server_max_window_bits=".toList ++ bitsText r.ext.config.maxWindowBits)
  else r

/-- The locals at the start of an offer. -/
def Offer.empty : Offer := ⟨[], false, false, false, false⟩

/-- `on_receive_request` from one header value of the request on: an offer
with no `client_max_window_bits`, while the server's window is below 15, is
skipped; the first other one is answered and enables the extension; with no
offer left the extension is declined. -/
def receiveOffers : DeflateExt → HeaderMap → List HeaderValue →
    DeflateExt × HeaderMap × Except DeflateExtensionError Unit
  | ext, response, [] => ((ext.decline response).1, (ext.decline response).2, .ok ())
  | ext, response, header :: headers =>
    match header.toStr with
    | .error e =>
      ({ ext with enabled := false }, response,
        .error (.negotiationError ("Failed to parse header: " ++ e)))
    | .ok header =>
      let r := finishOffer ((Str.split header ';').foldl receiveParam ⟨ext, response, Offer.empty⟩)
      if !Str.contains r.offer.resExt "client_max_window_bits".toList &&
          r.ext.config.maxWindowBits < 15 then
        receiveOffers r.ext r.response headers
      else
        match HeaderValue.fromStr r.offer.resExt with
        | .error e => (r.ext, r.response, .error (.negotiationError e))
        | .ok v => ({ r.ext with enabled := true }, r.response.insert secWebsocketExtensions v, .ok ())

/-- `on_receive_request`: the new extension, the response, and the result. -/
def onReceiveRequest (ext : DeflateExt) (request response : HeaderMap) :
    DeflateExt × HeaderMap × Except DeflateExtensionError Unit :=
  receiveOffers ext response (request.getAll secWebsocketExtensions)

/-! ### Every answer is a header value -/

@[simp] theorem Reading.push_resExt (r : Reading) (s : Str) :
    (r.push s).offer.resExt = r.offer.resExt ++ s := rfl

@[simp] theorem Reading.decline_offer (r : Reading) : r.decline.offer = r.offer := rfl

/-- From `r` to `r'` the answer only grew, by text a header value may hold. -/
def Appends (r r' : Reading) : Prop :=
  ∃ s, r'.offer.resExt = r.offer.resExt ++ s ∧ s.all isValueChar = true

theorem Appends.of_eq {r r' : Reading} (h : r'.offer.resExt = r.offer.resExt) : Appends r r' :=
  ⟨[], by rw [h, List.append_nil], rfl⟩

theorem Appends.push (r : Reading) {s : Str} (hs : s.all isValueChar = true) : Appends r (r.push s) :=
  ⟨s, rfl, hs⟩

theorem Appends.trans {r r' r'' : Reading} (h₁ : Appends r r') (h₂ : Appends r' r'') : Appends r r'' := by
  obtain ⟨s₁, e₁, v₁⟩ := h₁
  obtain ⟨s₂, e₂, v₂⟩ := h₂
  exact ⟨s₁ ++ s₂, by rw [e₂, e₁, List.append_assoc], by simp [v₁, v₂]⟩

theorem Appends.ite {r a b : Reading} {c : Prop} [Decidable c] (ha : Appends r a) (hb : Appends r b) :
    Appends r (if c then a else b) := by
  split <;> assumption

theorem Appends.answerMax (r : Reading) : Appends r (answerMax r) :=
  .push r (by simp only [List.all_append, bitsText_valid, Bool.and_true]; decide)

/-- The answer's text for a parameter it echoes: the parameter after `; `. -/
theorem Appends.echo (r : Reading) {param : Str} (hp : param.all isValueChar = true) :
    Appends r (r.push ("; ".toList ++ param)) :=
  .push r (by simp only [List.all_append, hp, Bool.and_true]; decide)

theorem receiveServerMaxWindowBits_appends (r : Reading) {param : Str}
    (hp : param.all isValueChar = true) : Appends r (receiveServerMaxWindowBits r param) := by
  unfold receiveServerMaxWindowBits
  repeat' split
  all_goals first | exact .of_eq rfl | exact .echo _ hp

theorem receiveClientMaxWindowBits_appends (r : Reading) {param : Str}
    (hp : param.all isValueChar = true) : Appends r (receiveClientMaxWindowBits r param) := by
  unfold receiveClientMaxWindowBits
  repeat' split
  all_goals first | exact .answerMax _ | exact .echo _ hp

theorem receiveParam_appends (r : Reading) {param : Str} (hp : param.all isValueChar = true) :
    Appends r (receiveParam r param) := by
  have ht := Str.all_trim hp
  unfold receiveParam
  dsimp only
  refine .ite (.push _ (by decide)) (.ite ?_ (.ite ?_ (.ite ?_ (.ite ?_ (.of_eq rfl)))))
  · exact .ite (.of_eq rfl) (.ite (.push _ (by decide)) (.of_eq rfl))
  · exact .ite (.of_eq rfl) (.push _ (by decide))
  · exact .ite (.of_eq rfl) (receiveServerMaxWindowBits_appends _ ht)
  · exact .ite (.of_eq rfl) (receiveClientMaxWindowBits_appends _ ht)

theorem finishOffer_appends (r : Reading) : Appends r (finishOffer r) := by
  have hmax (r : Reading) : Appends r
      (r.push ("; ".toList ++ "server_max_window_bits=".toList ++ bitsText r.ext.config.maxWindowBits)) :=
    .push r (by simp only [List.all_append, bitsText_valid, Bool.and_true]; decide)
  unfold finishOffer
  dsimp only
  split
  · exact .ite ((Appends.push _ (by decide)).trans (hmax _)) (.push _ (by decide))
  · exact .ite (hmax _) (.of_eq rfl)

/-- The answer to an offer whose text is visible ASCII is a header value. -/
theorem answer_valid (ext : DeflateExt) (response : HeaderMap) {header : Str}
    (h : header.all isVisibleAscii = true) :
    (finishOffer ((Str.split header ';').foldl receiveParam ⟨ext, response, Offer.empty⟩)).offer.resExt.all
      isValueChar = true := by
  have hv : ∀ p ∈ Str.split header ';', p.all isValueChar = true := fun p hp =>
    Str.all_of_mem_split (List.all_eq_true.2 fun c hc =>
      HeaderValue.isValueChar_of_isVisibleAscii (List.all_eq_true.1 h c hc)) hp
  have fold : ∀ (params : List Str) (r : Reading), (∀ p ∈ params, p.all isValueChar = true) →
      Appends r (params.foldl receiveParam r) := by
    intro params
    induction params with
    | nil => exact fun r _ => .of_eq rfl
    | cons p ps ih =>
      exact fun r hps => (receiveParam_appends r (hps p (.head _))).trans
        (ih _ fun q hq => hps q (.tail _ hq))
  obtain ⟨s, e, v⟩ := (fold _ _ hv).trans (finishOffer_appends _)
  rw [e]
  exact v

/-- `on_receive_request` fails only on a header value that `to_str` rejects:
the answer it builds from the others is always a header value, so
`HeaderValue::from_str(&res_ext)?` never fails. -/
theorem onReceiveRequest_error (ext : DeflateExt) (request response : HeaderMap)
    {e : DeflateExtensionError} (h : (onReceiveRequest ext request response).2.2 = .error e) :
    ∃ v ∈ request.getAll secWebsocketExtensions, ∃ t, v.toStr = .error t ∧
      e = .negotiationError ("Failed to parse header: " ++ t) := by
  unfold onReceiveRequest at h
  generalize request.getAll secWebsocketExtensions = headers at h ⊢
  induction headers generalizing ext response with
  | nil => simp [receiveOffers] at h
  | cons v vs ih =>
    simp only [receiveOffers] at h
    split at h
    · rename_i t ht
      exact ⟨v, .head _, t, ht, by injection h.symm⟩
    · rename_i header ht
      split at h
      · obtain ⟨w, hw, t, h₁, h₂⟩ := ih _ _ h
        exact ⟨w, .tail _ hw, t, h₁, h₂⟩
      · rw [HeaderValue.fromStr_of_valid (answer_valid ext response (HeaderValue.toStr_ok_valid ht))] at h
        cases h

/-- The negotiation builds only header values: the client's offer never
panics and is appended to the request, and `on_receive_request` fails only
with the `to_str` error, on a value of the request that is not visible ASCII. -/
theorem negotiation_builds_header_values (ext : DeflateExt) (request response : HeaderMap) :
    (∃ v, ext.onMakeRequest request = .ret (request.append secWebsocketExtensions v)) ∧
    ∀ e, (onReceiveRequest ext request response).2.2 = .error e →
      e = .negotiationError ("Failed to parse header: " ++ HeaderValue.toStrErrorText) ∧
      ∃ v ∈ request.getAll secWebsocketExtensions, v.chars.all isVisibleAscii = false := by
  refine ⟨onMakeRequest_ret ext request, fun e h => ?_⟩
  obtain ⟨v, hv, t, ht, rfl⟩ := onReceiveRequest_error ext request response h
  unfold HeaderValue.toStr at ht
  split at ht
  · cases ht
  · next hn =>
    cases ht
    exact ⟨rfl, v, hv, Bool.eq_false_iff.mpr hn⟩

/-- A request whose one extension value holds a character beyond ASCII: the
server fails, naming `to_str`'s error. -/
theorem negotiation_builds_header_values_non_ascii :
    (onReceiveRequest (new DeflateConfig.default)
        ⟨[(secWebsocketExtensions, ⟨"permessage-deflate; é".toList, by decide⟩)]⟩ ⟨[]⟩).2.2 =
      .error (.negotiationError ("Failed to parse header: " ++ HeaderValue.toStrErrorText)) ∧
    ∃ v ∈ (⟨[(secWebsocketExtensions, ⟨"permessage-deflate; é".toList, by decide⟩)]⟩ : HeaderMap).getAll
      secWebsocketExtensions, v.chars.all isVisibleAscii = false :=
  have h : (onReceiveRequest (new DeflateConfig.default)
      ⟨[(secWebsocketExtensions, ⟨"permessage-deflate; é".toList, by decide⟩)]⟩ ⟨[]⟩).2.2 =
      .error (.negotiationError ("Failed to parse header: " ++ HeaderValue.toStrErrorText)) := rfl
  ⟨h, ((negotiation_builds_header_values _ _ ⟨[]⟩).2 _ h).2⟩

/-! ### The server's window is kept -/

@[simp] theorem Reading.push_ext (r : Reading) (s : Str) : (r.push s).ext = r.ext := rfl

@[simp] theorem Reading.decline_config (r : Reading) : r.decline.ext.config = r.ext.config := rfl

theorem receiveServerMaxWindowBits_config (r : Reading) (param : Str) :
    (receiveServerMaxWindowBits r param).ext.config = r.ext.config := by
  unfold receiveServerMaxWindowBits
  repeat' split
  all_goals rfl

theorem receiveClientMaxWindowBits_config (r : Reading) (param : Str) :
    (receiveClientMaxWindowBits r param).ext.config = r.ext.config := by
  unfold receiveClientMaxWindowBits answerMax
  repeat' split
  all_goals rfl

/-- The parameters of an offer change the resets, never the server's window. -/
theorem receiveParam_maxWindowBits (r : Reading) (param : Str) :
    (receiveParam r param).ext.config.maxWindowBits = r.ext.config.maxWindowBits := by
  unfold receiveParam
  simp only [apply_ite (fun r : Reading => r.ext.config.maxWindowBits), Reading.push_ext,
    Reading.decline_config, receiveServerMaxWindowBits_config, receiveClientMaxWindowBits_config, ite_self]

theorem finishOffer_maxWindowBits (r : Reading) :
    (finishOffer r).ext.config.maxWindowBits = r.ext.config.maxWindowBits := by
  unfold finishOffer
  simp only [apply_ite (fun r : Reading => r.ext.config.maxWindowBits), Reading.push_ext, ite_self]

theorem foldl_receiveParam_maxWindowBits (params : List Str) (r : Reading) :
    (params.foldl receiveParam r).ext.config.maxWindowBits = r.ext.config.maxWindowBits := by
  induction params generalizing r with
  | nil => rfl
  | cons p ps ih => rw [List.foldl_cons, ih, receiveParam_maxWindowBits]

/-- A server whose window is 15 bits answers the first offer of a request,
whatever its parameters, and enables the extension: a parameter it does not
know, one given twice or a window it refuses declines, but the loop goes on,
and the answer after it is inserted and the extension enabled all the same. -/
theorem server_enables_first_offer (ext : DeflateExt) (request response : HeaderMap) {v : HeaderValue}
    {vs : List HeaderValue} (hmax : ext.config.maxWindowBits = 15)
    (hreq : request.getAll secWebsocketExtensions = v :: vs) (hv : v.chars.all isVisibleAscii = true) :
    ∃ ext' response' answer, onReceiveRequest ext request response = (ext', response', .ok ()) ∧
      ext'.enabled = true ∧ response'.getAll secWebsocketExtensions = [answer] := by
  have ht : v.toStr = .ok v.chars := by simp [HeaderValue.toStr, hv]
  have hr : (finishOffer ((Str.split v.chars ';').foldl receiveParam ⟨ext, response, Offer.empty⟩)).ext.config.maxWindowBits = 15 := by
    rw [finishOffer_maxWindowBits, foldl_receiveParam_maxWindowBits, hmax]
  have h15 : decide ((15 : UInt8) < 15) = false := rfl
  simp only [onReceiveRequest, hreq, receiveOffers, ht, hr, h15, Bool.and_false, Bool.false_eq_true,
    if_false, HeaderValue.fromStr_of_valid (answer_valid ext response hv)]
  exact ⟨_, _, _, rfl, rfl, HeaderMap.getAll_insert_self _ _ _⟩

/-- An offer with a parameter the server does not know, on a server
configured by default. -/
theorem server_enables_first_offer_unknown_parameter :
    ∃ ext' response' answer, onReceiveRequest (new DeflateConfig.default)
        ⟨[(secWebsocketExtensions, ⟨"permessage-deflate; foo".toList, by decide⟩)]⟩ ⟨[]⟩ =
        (ext', response', .ok ()) ∧
      ext'.enabled = true ∧ response'.getAll secWebsocketExtensions = [answer] :=
  server_enables_first_offer _ _ _ rfl rfl (by decide)

/-- A server configured by default but for a window of at most 12 bits reads
two offers: one with `client_no_context_takeover`, which it
skips, then one with `client_max_window_bits`. It answers the second with a
window of 12 bits both ways and no context takeover named. Yet its compressor
keeps flate2's 15 bits, and its decompressor resets after every message. -/
theorem server_answer_disagrees_with_codec :
    ∃ ext response, onReceiveRequest (new ⟨some maxMessageSize, 12, false, true, 10, true, false, false, .best⟩)
        ⟨[(secWebsocketExtensions, ⟨"permessage-deflate; client_no_context_takeover".toList, by decide⟩),
          (secWebsocketExtensions, ⟨"permessage-deflate; client_max_window_bits".toList, by decide⟩)]⟩
        ⟨[]⟩ = (ext, response, .ok ()) ∧
      ext.enabled = true ∧
      (response.getAll secWebsocketExtensions).map HeaderValue.chars =
        ["permessage-deflate; client_max_window_bits=12; server_max_window_bits=12".toList] ∧
      ext.deflator.windowBits = 15 ∧ ext.config.decompressReset = true :=
  ⟨_, _, rfl, rfl, rfl, rfl, rfl⟩

/-! ## The client -/

/-- The flags `on_response` keeps across the response's header values: which
parameters it has read. -/
structure Seen where
  extensionName : Bool
  serverTakeover : Bool
  clientTakeover : Bool
  serverMaxWindowBits : Bool
  clientMaxWindowBits : Bool

/-- No parameter read yet. -/
def Seen.empty : Seen := ⟨false, false, false, false, false⟩

/-- The error for a parameter given twice. -/
def duplicateParameter (name : String) : DeflateExtensionError :=
  .negotiationError ("Duplicate extension parameter " ++ name)

/-- One parameter of the answer in `on_response`. -/
def responseParam (ext : DeflateExt) (seen : Seen) (param : Str) :
    Except DeflateExtensionError (DeflateExt × Seen) :=
  let param := Str.trim param
  if param = extName then
    if seen.extensionName then
      .error (.negotiationError "Duplicate extension name permessage-deflate")
    else .ok ({ ext with enabled := true }, { seen with extensionName := true })
  else if param = "server_no_context_takeover".toList then
    if seen.serverTakeover then .error (duplicateParameter "server_no_context_takeover")
    else .ok ({ ext with config.decompressReset := true }, { seen with serverTakeover := true })
  else if param = "client_no_context_takeover".toList then
    if seen.clientTakeover then .error (duplicateParameter "client_no_context_takeover")
    else if ext.config.acceptNoContextTakeover then
      .ok ({ ext with config.compressReset := true }, { seen with clientTakeover := true })
    else .error (.negotiationError "The client requires context takeover.")
  else if Str.startsWith param "server_max_window_bits".toList then
    if seen.serverMaxWindowBits then .error (duplicateParameter "server_max_window_bits")
    else
      let seen := { seen with serverMaxWindowBits := true }
      match ext.parseWindowParameter ((Str.split param '=').drop 1) with
      | .ok (some bits) =>
        .ok ({ ext with deflator := Deflator.newWithWindowBits ext.config.compressionLevel bits }, seen)
      | .ok none => .ok (ext, seen)
      | .error e => .error (.negotiationError ("server_max_window_bits parameter error: " ++ e))
  else if Str.startsWith param "client_max_window_bits".toList then
    if seen.clientMaxWindowBits then .error (duplicateParameter "client_max_window_bits")
    else
      let seen := { seen with clientMaxWindowBits := true }
      match ext.parseWindowParameter ((Str.split param '=').drop 1) with
      | .ok (some bits) => .ok ({ ext with inflator := Inflator.newWithWindowBits bits }, seen)
      | .ok none => .ok (ext, seen)
      | .error e => .error (.negotiationError ("client_max_window_bits parameter error: " ++ e))
  else .error (.negotiationError ("Unknown permessage-deflate parameter: " ++ String.mk param))

/-- The parameters of one header value in `on_response`; an error stops the
loop with the extension as it stood. -/
def responseParams : DeflateExt → Seen → List Str → DeflateExt × Except DeflateExtensionError Seen
  | ext, seen, [] => (ext, .ok seen)
  | ext, seen, param :: params =>
    match responseParam ext seen param with
    | .error e => (ext, .error e)
    | .ok (ext, seen) => responseParams ext seen params

/-- `on_response` from one header value of the response on. -/
def responseHeaders : DeflateExt → Seen → List HeaderValue →
    DeflateExt × Except DeflateExtensionError Unit
  | ext, _, [] => (ext, .ok ())
  | ext, seen, header :: headers =>
    match header.toStr with
    | .error e =>
      ({ ext with enabled := false },
        .error (.negotiationError ("Failed to parse extension parameter: " ++ e)))
    | .ok header =>
      match responseParams ext seen (Str.split header ';') with
      | (ext, .error e) => (ext, .error e)
      | (ext, .ok seen) => responseHeaders ext seen headers

/-- `on_response`: the new extension and the result. -/
def onResponse (ext : DeflateExt) (response : HeaderMap) :
    DeflateExt × Except DeflateExtensionError Unit :=
  responseHeaders ext Seen.empty (response.getAll secWebsocketExtensions)

/-- A client configured by default offers `client_max_window_bits`; the
server answers `client_max_window_bits=9` and names no server window, so the
server may compress with 15 bits and the client must with at most 9. The client
accepts the answer with its compressor at 15 bits and its decompressor
rebuilt with 9. -/
theorem client_codec_swaps_window_bits :
    (new DeflateConfig.default).onMakeRequest ⟨[]⟩ =
      .ret ⟨[(secWebsocketExtensions, ⟨"permessage-deflate; client_max_window_bits".toList, by decide⟩)]⟩ ∧
    ∃ ext, (new DeflateConfig.default).onResponse
        ⟨[(secWebsocketExtensions, ⟨"permessage-deflate; client_max_window_bits=9".toList, by decide⟩)]⟩ =
        (ext, .ok ()) ∧
      ext.enabled = true ∧ ext.deflator.windowBits = 15 ∧ ext.inflator.windowBits = 9 :=
  ⟨rfl, _, rfl, rfl, rfl, rfl⟩

end DeflateExt

end Tungstenite
