import Tungstenite.Deflate.Render

/-!
# The server's answer to an offer

`on_receive_request` reads an offer parameter by parameter on the text it
splits, building its answer in a string. For an offer of parameters of
distinct kinds (`Fresh`) the answer is `offerAnswer`: each parameter answered
on its own (`answerParam`), then finished as `finishOffer` does
(`finishParams`). The steps:

1. one lemma per kind of parameter reads it on the text
   (`receiveParam_clientMax` and the like);
2. `receiveParam_fresh`: a parameter of a kind not yet read appends its
   answer and sets the reset it names (`readParam`); `foldl_receiveParam_fresh`
   carries this over the whole offer;
3. `receiveOffer_answer`: the finished answer is `offerAnswer`;
4. `server_answers_offer`: on a request with one such offer the server never
   fails, enables the extension exactly when the offer names
   `client_max_window_bits` or its own window is 15, and then answers with
   `offerAnswer`.

The answer is itself of distinct kinds (`offerAnswer_fresh`), and its windows
lie in [8, 15] when the server's does (`offerAnswer_readable`).
-/

namespace Tungstenite

namespace DeflateExt

/-! ## The server reads the parameters -/

/-- The server reads a parameter after its blank as the parameter. -/
theorem receiveParam_space (r : Reading) (p : Param) : receiveParam r (' ' :: p.text) = receiveParam r p.text := by
  simp only [receiveParam, Str.trim_cons_space p.isWhitespace_text, Str.trim_of_forall p.isWhitespace_text]

theorem receiveParam_extName (r : Reading) : receiveParam r extName = r.push extName := by
  simp [receiveParam, Str.trim_of_forall (s := extName) (by decide)]

theorem Param.text_clientMax_some (b : UInt8) :
    (Param.clientMaxWindowBits (some b)).text = "client_max_window_bits".toList ++ '=' :: bitsText b := by
  simp [Param.text]

theorem Param.text_serverMax (b : UInt8) :
    (Param.serverMaxWindowBits b).text = "server_max_window_bits".toList ++ '=' :: bitsText b := by
  simp [Param.text]

theorem receiveParam_clientMax (r : Reading) (v : Option UInt8) :
    receiveParam r (Param.clientMaxWindowBits v).text =
      if r.offer.cMax then r.decline
      else receiveClientMaxWindowBits { r with offer.cMax := true } (Param.clientMaxWindowBits v).text := by
  simp only [receiveParam, Str.trim_of_forall (Param.isWhitespace_text _), if_neg (Param.text_ne_extName _),
    Param.text_eq_serverNoContextTakeover_iff, Param.text_eq_clientNoContextTakeover_iff,
    Param.startsWith_text_serverMax, Param.startsWith_text_clientMax]
  simp

theorem receiveClientMaxWindowBits_none (r : Reading) :
    receiveClientMaxWindowBits r (Param.clientMaxWindowBits none).text = answerMax r := by
  have hs : Str.split (Param.clientMaxWindowBits none).text '=' = [(Param.clientMaxWindowBits none).text] :=
    Str.split_of_not_mem (by decide)
  simp [receiveClientMaxWindowBits, hs]

theorem receiveClientMaxWindowBits_some (r : Reading) (b : UInt8) :
    receiveClientMaxWindowBits r (Param.clientMaxWindowBits (some b)).text =
      if 9 ≤ b && b ≤ 15 then
        if b < r.ext.config.maxWindowBits then
          ({ r with ext.inflator := Inflator.newWithWindowBits b }).push
            ("; ".toList ++ (Param.clientMaxWindowBits (some b)).text)
        else answerMax r
      else answerMax r.decline := by
  rw [receiveClientMaxWindowBits, Param.text_clientMax_some, split_window (by decide)]
  simp only [List.drop_succ_cons, List.drop_zero, parseU8_trim_bitsText]

theorem receiveParam_serverMax (r : Reading) (b : UInt8) :
    receiveParam r (Param.serverMaxWindowBits b).text =
      if r.offer.sMax then r.decline
      else receiveServerMaxWindowBits { r with offer.sMax := true } (Param.serverMaxWindowBits b).text := by
  simp only [receiveParam, Str.trim_of_forall (Param.isWhitespace_text _), if_neg (Param.text_ne_extName _),
    Param.text_eq_serverNoContextTakeover_iff, Param.text_eq_clientNoContextTakeover_iff,
    Param.startsWith_text_serverMax, Param.startsWith_text_clientMax]
  simp

theorem receiveServerMaxWindowBits_text (r : Reading) (b : UInt8) :
    receiveServerMaxWindowBits r (Param.serverMaxWindowBits b).text =
      if 9 ≤ b && b ≤ 15 then
        if b < r.ext.config.maxWindowBits then
          ({ r with ext.deflator := Deflator.newWithWindowBits r.ext.config.compressionLevel b }).push
            ("; ".toList ++ (Param.serverMaxWindowBits b).text)
        else r
      else r.decline := by
  rw [receiveServerMaxWindowBits, Param.text_serverMax, split_window (by decide)]
  simp only [List.drop_succ_cons, List.drop_zero, parseU8_trim_bitsText]

theorem receiveParam_serverNoContextTakeover (r : Reading) :
    receiveParam r Param.serverNoContextTakeover.text =
      if r.offer.sTakeover then r.decline
      else if r.ext.config.acceptNoContextTakeover then
        ({ r with offer.sTakeover := true, ext.config.compressReset := true }).push
          ("; ".toList ++ Param.serverNoContextTakeover.text)
      else { r with offer.sTakeover := true } := by
  simp only [receiveParam, Str.trim_of_forall (Param.isWhitespace_text _), if_neg (Param.text_ne_extName _),
    Param.text_eq_serverNoContextTakeover_iff, Param.text_eq_clientNoContextTakeover_iff,
    Param.startsWith_text_serverMax, Param.startsWith_text_clientMax]
  simp [Param.text]

theorem receiveParam_clientNoContextTakeover (r : Reading) :
    receiveParam r Param.clientNoContextTakeover.text =
      if r.offer.cTakeover then r.decline
      else ({ r with offer.cTakeover := true, ext.config.decompressReset := true }).push
        ("; ".toList ++ Param.clientNoContextTakeover.text) := by
  simp only [receiveParam, Str.trim_of_forall (Param.isWhitespace_text _), if_neg (Param.text_ne_extName _),
    Param.text_eq_serverNoContextTakeover_iff, Param.text_eq_clientNoContextTakeover_iff,
    Param.startsWith_text_serverMax, Param.startsWith_text_clientMax]
  simp [Param.text]

/-! ## The answer to each parameter -/

/-- The flags of `on_receive_request` as the parameters it has read. -/
def Offer.seen (o : Offer) : Seen := ⟨false, o.sTakeover, o.cTakeover, o.sMax, o.cMax⟩

/-- The server's answer to a parameter of a kind it has not read. -/
def answerParam (config : DeflateConfig) : Param → List Param
  | .clientMaxWindowBits none => [.clientMaxWindowBits (some config.maxWindowBits)]
  | .clientMaxWindowBits (some b) =>
    [.clientMaxWindowBits (some (if 9 ≤ b ∧ b ≤ 15 ∧ b < config.maxWindowBits then b else config.maxWindowBits))]
  | .serverMaxWindowBits b => if 9 ≤ b ∧ b ≤ 15 ∧ b < config.maxWindowBits then [.serverMaxWindowBits b] else []
  | .serverNoContextTakeover => if config.acceptNoContextTakeover then [.serverNoContextTakeover] else []
  | .clientNoContextTakeover => [.clientNoContextTakeover]

/-- The configuration after reading a parameter. -/
def readParam (c : DeflateConfig) : Param → DeflateConfig
  | .serverNoContextTakeover => if c.acceptNoContextTakeover then { c with compressReset := true } else c
  | .clientNoContextTakeover => { c with decompressReset := true }
  | _ => c

/-- The server's decompressor after reading a parameter: rebuilt with the
client's window when the server echoes it. -/
def readInflator (c : DeflateConfig) (i : Inflator) : Param → Inflator
  | .clientMaxWindowBits (some b) =>
    if 9 ≤ b ∧ b ≤ 15 ∧ b < c.maxWindowBits then Inflator.newWithWindowBits b else i
  | _ => i

/-- The server's compressor after reading a parameter: rebuilt with the
window the client asks of it when the server echoes it. -/
def readDeflator (c : DeflateConfig) (d : Deflator) : Param → Deflator
  | .serverMaxWindowBits b =>
    if 9 ≤ b ∧ b ≤ 15 ∧ b < c.maxWindowBits then Deflator.newWithWindowBits c.compressionLevel b else d
  | _ => d

/-- The server reads a parameter of a kind it has not read: it appends the
parameter's answer, marks the kind read, sets the reset the parameter names
and rebuilds the codec whose window it echoes. Each kind is read by its own
lemma of the section above. -/
theorem receiveParam_fresh (r : Reading) {q : Param} (hs : r.offer.seen.has q = false) :
    (receiveParam r q.text).offer.resExt =
        r.offer.resExt ++ (answerParam r.ext.config q).flatMap (fun p => "; ".toList ++ p.text) ∧
      (receiveParam r q.text).offer.seen = r.offer.seen.mark q ∧
      (receiveParam r q.text).ext.config = readParam r.ext.config q ∧
      (receiveParam r q.text).ext.inflator = readInflator r.ext.config r.ext.inflator q ∧
      (receiveParam r q.text).ext.deflator = readDeflator r.ext.config r.ext.deflator q := by
  cases q with
  | clientMaxWindowBits v =>
    rw [receiveParam_clientMax, if_neg (by simpa [Offer.seen, Seen.has] using hs)]
    cases v with
    | none =>
      rw [receiveClientMaxWindowBits_none]
      simp [answerMax, answerParam, Param.text, Offer.seen, Seen.mark,
        readParam, readInflator, readDeflator, Reading.push]
    | some b =>
      rw [receiveClientMaxWindowBits_some]
      by_cases h₁ : 9 ≤ b ∧ b ≤ 15 <;> by_cases h₂ : b < r.ext.config.maxWindowBits <;>
        simp [h₁, h₂, answerMax, answerParam, Param.text, Offer.seen, Seen.mark, readParam,
          readInflator, readDeflator, Reading.push, Reading.decline, decline]
  | serverMaxWindowBits b =>
    rw [receiveParam_serverMax, if_neg (by simpa [Offer.seen, Seen.has] using hs), receiveServerMaxWindowBits_text]
    by_cases h₁ : 9 ≤ b ∧ b ≤ 15 <;> by_cases h₂ : b < r.ext.config.maxWindowBits <;>
      simp [h₁, h₂, answerParam, Param.text, Offer.seen, Seen.mark, readParam,
        readInflator, readDeflator, Reading.push, Reading.decline, decline]
  | serverNoContextTakeover =>
    rw [receiveParam_serverNoContextTakeover, if_neg (by simpa [Offer.seen, Seen.has] using hs)]
    cases ha : r.ext.config.acceptNoContextTakeover <;>
      simp [ha, answerParam, Param.text, Offer.seen, Seen.mark, readParam, readInflator, readDeflator,
        Reading.push]
  | clientNoContextTakeover =>
    rw [receiveParam_clientNoContextTakeover, if_neg (by simpa [Offer.seen, Seen.has] using hs)]
    simp [answerParam, Param.text, Offer.seen, Seen.mark, readParam, readInflator, readDeflator,
      Reading.push]

theorem answerParam_readParam (c : DeflateConfig) (p : Param) : answerParam (readParam c p) = answerParam c := by
  funext q
  cases p <;> simp only [readParam] <;> (try split) <;> rfl

theorem readInflator_readParam (c : DeflateConfig) (p : Param) : readInflator (readParam c p) = readInflator c := by
  cases p <;> simp only [readParam] <;> (try split) <;> rfl

theorem readDeflator_readParam (c : DeflateConfig) (p : Param) : readDeflator (readParam c p) = readDeflator c := by
  cases p <;> simp only [readParam] <;> (try split) <;> rfl

/-- Reading parameters sets the resets of the context-takeover ones and
keeps the rest of the configuration. -/
theorem foldl_readParam : ∀ (qs : List Param) (c : DeflateConfig), qs.foldl readParam c =
    { c with compressReset := c.compressReset || decide (.serverNoContextTakeover ∈ qs) && c.acceptNoContextTakeover,
             decompressReset := c.decompressReset || decide (.clientNoContextTakeover ∈ qs) }
  | [], c => by simp
  | q :: qs, c => by
    rw [List.foldl_cons, foldl_readParam qs]
    cases q <;> simp only [readParam] <;> (try split) <;> simp_all [Bool.or_assoc]

/-- The server reads parameters of distinct kinds, each on its own. -/
theorem foldl_receiveParam_fresh : ∀ (qs : List Param) (r : Reading), Fresh r.offer.seen qs →
    (qs.foldl (fun r q => receiveParam r q.text) r).offer.resExt =
        r.offer.resExt ++ (qs.flatMap (answerParam r.ext.config)).flatMap (fun p => "; ".toList ++ p.text) ∧
      (qs.foldl (fun r q => receiveParam r q.text) r).ext.config = qs.foldl readParam r.ext.config ∧
      (qs.foldl (fun r q => receiveParam r q.text) r).ext.inflator =
        qs.foldl (readInflator r.ext.config) r.ext.inflator ∧
      (qs.foldl (fun r q => receiveParam r q.text) r).ext.deflator =
        qs.foldl (readDeflator r.ext.config) r.ext.deflator
  | [], r, _ => by simp
  | q :: qs, r, ⟨hs, hf⟩ => by
    obtain ⟨h₁, h₂, h₃, h₄, h₅⟩ := receiveParam_fresh r hs
    obtain ⟨ih₁, ih₂, ih₃, ih₄⟩ := foldl_receiveParam_fresh qs (receiveParam r q.text) (h₂ ▸ hf)
    rw [List.foldl_cons, ih₁, ih₂, ih₃, ih₄, h₁, h₃, h₄, h₅, answerParam_readParam, readInflator_readParam,
      readDeflator_readParam]
    simp [List.flatMap_append, List.append_assoc]

theorem clientNoContextTakeover_mem_answerParam (c : DeflateConfig) (q : Param) :
    .clientNoContextTakeover ∈ answerParam c q ↔ q = .clientNoContextTakeover := by
  cases q with
  | clientMaxWindowBits v => cases v <;> simp [answerParam]
  | serverMaxWindowBits b => simp [answerParam, apply_ite]
  | serverNoContextTakeover => simp [answerParam, apply_ite]
  | clientNoContextTakeover => simp [answerParam]

theorem clientNoContextTakeover_mem_flatMap_answerParam (c : DeflateConfig) (qs : List Param) :
    .clientNoContextTakeover ∈ qs.flatMap (answerParam c) ↔ .clientNoContextTakeover ∈ qs := by
  simp [clientNoContextTakeover_mem_answerParam]

theorem serverNoContextTakeover_mem_answerParam (c : DeflateConfig) (q : Param) :
    .serverNoContextTakeover ∈ answerParam c q ↔ q = .serverNoContextTakeover ∧ c.acceptNoContextTakeover = true := by
  cases q with
  | clientMaxWindowBits v => cases v <;> simp [answerParam]
  | serverMaxWindowBits b => simp [answerParam, apply_ite]
  | serverNoContextTakeover => cases h : c.acceptNoContextTakeover <;> simp [answerParam, h]
  | clientNoContextTakeover => simp [answerParam]

/-! ## What an answer holds -/

/-- What `finishOffer` adds to an answer `ps`: `client_no_context_takeover`
when the server asks for it and `ps` lacks it, then the server's window when
no parameter names one. -/
def finishParams (config : DeflateConfig) (ps : List Param) : List Param :=
  let ps := ps ++ if config.requestNoContextTakeover ∧ .clientNoContextTakeover ∉ ps then
    [.clientNoContextTakeover] else []
  ps ++ if ps.any Param.isServerMax then [] else [.serverMaxWindowBits config.maxWindowBits]

/-- The server's answer to an offer of parameters of distinct kinds: each
answered on its own, then finished. -/
def offerAnswer (config : DeflateConfig) (qs : List Param) : List Param :=
  finishParams config (qs.flatMap (answerParam config))

/-- The answer to a parameter is of the parameter's kind, or empty. -/
theorem fresh_answerParam_append (c : DeflateConfig) {s : Seen} {q : Param} {rest : List Param}
    (hs : s.has q = false) (hf : Fresh (s.mark q) rest) : Fresh s (answerParam c q ++ rest) := by
  cases q with
  | clientMaxWindowBits v => cases v <;> exact ⟨hs, hf⟩
  | serverMaxWindowBits b => simp only [answerParam]; split; exacts [⟨hs, hf⟩, hf.of_mark _]
  | serverNoContextTakeover => simp only [answerParam]; split; exacts [⟨hs, hf⟩, hf.of_mark _]
  | clientNoContextTakeover => exact ⟨hs, hf⟩

theorem fresh_flatMap_answerParam (c : DeflateConfig) : ∀ {qs : List Param} {s : Seen}, Fresh s qs →
    Fresh s (qs.flatMap (answerParam c))
  | [], _, _ => trivial
  | _ :: _, _, ⟨hs, hf⟩ => fresh_answerParam_append c hs (fresh_flatMap_answerParam c hf)

theorem fresh_append_clientNoContextTakeover (c : DeflateConfig) {ps : List Param} (hf : Fresh Seen.empty ps) :
    Fresh Seen.empty (ps ++ if c.requestNoContextTakeover ∧ .clientNoContextTakeover ∉ ps then
      [.clientNoContextTakeover] else []) := by
  refine fresh_append hf ?_
  split
  · rename_i h
    refine ⟨?_, trivial⟩
    simp only [Seen.has_foldl_mark, Seen.has_empty, Seen.empty_mark_has_clientNoContextTakeover, Bool.false_or,
      List.any_eq_false, decide_eq_true_eq]
    exact fun x hx e => h.2 (e ▸ hx)
  · trivial

theorem fresh_append_serverMax (c : DeflateConfig) {ps : List Param} (hf : Fresh Seen.empty ps) :
    Fresh Seen.empty (ps ++ if ps.any Param.isServerMax then [] else [.serverMaxWindowBits c.maxWindowBits]) := by
  refine fresh_append hf ?_
  split
  · trivial
  · rename_i h
    refine ⟨?_, trivial⟩
    simpa only [Seen.has_foldl_mark, Seen.has_empty, Seen.empty_mark_has_serverMax, Bool.false_or,
      Bool.not_eq_true] using h

/-- The server's answer to an offer of distinct kinds is of distinct kinds:
`finishOffer` adds a kind only when the answer lacks it. -/
theorem offerAnswer_fresh (c : DeflateConfig) {qs : List Param} (hf : Fresh Seen.empty qs) :
    Fresh Seen.empty (offerAnswer c qs) :=
  fresh_append_serverMax c (fresh_append_clientNoContextTakeover c (fresh_flatMap_answerParam c hf))

theorem answerParam_readable {c : DeflateConfig} (h : 8 ≤ c.maxWindowBits ∧ c.maxWindowBits ≤ 15) :
    ∀ q, ∀ p ∈ answerParam c q, p.Readable
  | .clientMaxWindowBits none => by simpa [answerParam, Param.Readable] using h
  | .clientMaxWindowBits (some b) => by
    simp only [answerParam, List.mem_singleton, forall_eq, Param.Readable]
    split
    · rename_i hb
      exact window_readable hb.1 hb.2.1
    · exact h
  | .serverMaxWindowBits b => by
    simp only [answerParam]
    split
    · rename_i hb
      simpa [Param.Readable] using window_readable hb.1 hb.2.1
    · simp
  | .serverNoContextTakeover => by simp [answerParam, Param.Readable]
  | .clientNoContextTakeover => by simp [answerParam, Param.Readable]

/-- The windows of the server's answer are the offer's, from 9 to 15, or its
own, so a client reads them when the server's lies in [8, 15]. -/
theorem offerAnswer_readable {c : DeflateConfig} (h : 8 ≤ c.maxWindowBits ∧ c.maxWindowBits ≤ 15)
    (qs : List Param) : ∀ p ∈ offerAnswer c qs, p.Readable := by
  intro p hp
  simp only [offerAnswer, finishParams, List.mem_append, List.mem_flatMap] at hp
  rcases hp with (⟨q, -, hq⟩ | hp) | hp
  · exact answerParam_readable h q p hq
  · rw [(List.mem_singleton.mp (List.mem_ite_nil_right.mp hp).2)]
    trivial
  · rw [(List.mem_singleton.mp (List.mem_ite_nil_left.mp hp).2)]
    exact h

theorem clientNoContextTakeover_mem_offerAnswer (c : DeflateConfig) (qs : List Param) :
    .clientNoContextTakeover ∈ offerAnswer c qs ↔ .clientNoContextTakeover ∈ qs ∨ c.requestNoContextTakeover = true := by
  simp only [offerAnswer, finishParams, List.mem_append, clientNoContextTakeover_mem_flatMap_answerParam]
  by_cases hq : c.requestNoContextTakeover <;> by_cases hc : Param.clientNoContextTakeover ∈ qs <;>
    simp [hq, hc, apply_ite (Param.clientNoContextTakeover ∈ ·)]

theorem serverNoContextTakeover_mem_offerAnswer (c : DeflateConfig) (qs : List Param) :
    .serverNoContextTakeover ∈ offerAnswer c qs ↔
      .serverNoContextTakeover ∈ qs ∧ c.acceptNoContextTakeover = true := by
  have hmem : Param.serverNoContextTakeover ∈ qs.flatMap (answerParam c) ↔
      .serverNoContextTakeover ∈ qs ∧ c.acceptNoContextTakeover = true := by
    simp only [List.mem_flatMap, serverNoContextTakeover_mem_answerParam]
    exact ⟨fun ⟨_, hq, rfl, ha⟩ => ⟨hq, ha⟩, fun ⟨hq, ha⟩ => ⟨_, hq, rfl, ha⟩⟩
  simp only [offerAnswer, finishParams, List.mem_append, hmem]
  split <;> split <;> simp

theorem any_answerParam_isClientMax (c : DeflateConfig) (q : Param) :
    (answerParam c q).any Param.isClientMax = q.isClientMax := by
  cases q with
  | clientMaxWindowBits v => cases v <;> rfl
  | serverMaxWindowBits b => simp only [answerParam]; split <;> rfl
  | serverNoContextTakeover => simp only [answerParam]; split <;> rfl
  | clientNoContextTakeover => rfl

theorem offerAnswer_any_isClientMax (c : DeflateConfig) (qs : List Param) :
    (offerAnswer c qs).any Param.isClientMax = qs.any Param.isClientMax := by
  have hc : Param.clientNoContextTakeover.isClientMax = false := rfl
  have hs : (Param.serverMaxWindowBits c.maxWindowBits).isClientMax = false := rfl
  simp only [offerAnswer, finishParams, List.any_append, List.any_flatMap, any_answerParam_isClientMax]
  split <;> split <;> simp only [List.any_cons, List.any_nil, hc, hs, Bool.or_false]

/-! ## The server answers -/

/-- The second half of `finishOffer`: the server's window, written when the
answer holds none. -/
theorem finishServerMax_resExt {r : Reading} {ps : List Param} (h : r.offer.resExt = render ps) :
    (if !Str.contains r.offer.resExt "server_max_window_bits".toList then
        r.push ("; ".toList ++ "server_max_window_bits=".toList ++ bitsText r.ext.config.maxWindowBits)
      else r).offer.resExt =
      render (ps ++ if ps.any Param.isServerMax then [] else [.serverMaxWindowBits r.ext.config.maxWindowBits]) := by
  rw [h, contains_render_serverMax]
  cases ps.any Param.isServerMax <;> simp [h, render_append, Param.text]

/-- `finishOffer` on an answer so far rendered from `ps` renders
`finishParams`, and sets the decompressor's reset when it adds
`client_no_context_takeover`. -/
theorem finishOffer_finishParams {r : Reading} {ps : List Param} (h : r.offer.resExt = render ps) :
    (finishOffer r).offer.resExt = render (finishParams r.ext.config ps) ∧
      (finishOffer r).ext.config = if r.ext.config.requestNoContextTakeover ∧ .clientNoContextTakeover ∉ ps then
        { r.ext.config with decompressReset := true } else r.ext.config := by
  have hnc : Str.contains r.offer.resExt "client_no_context_takeover".toList =
      decide (.clientNoContextTakeover ∈ ps) := by
    rw [h, contains_render_clientNoContextTakeover]
  unfold finishOffer finishParams
  by_cases hc : r.ext.config.requestNoContextTakeover ∧ .clientNoContextTakeover ∉ ps
  · have h₁ : (!Str.contains r.offer.resExt "client_no_context_takeover".toList &&
        r.ext.config.requestNoContextTakeover) = true := by
      rw [hnc]
      simp [hc]
    simp only [h₁, if_true, if_pos hc]
    refine ⟨finishServerMax_resExt ?_, by split <;> rfl⟩
    simp [h, render_append, Param.text]
  · have h₁ : (!Str.contains r.offer.resExt "client_no_context_takeover".toList &&
        r.ext.config.requestNoContextTakeover) = false := by
      rw [hnc]
      cases hq : r.ext.config.requestNoContextTakeover <;> simp_all
    simp only [h₁, Bool.false_eq_true, if_false, if_neg hc, List.append_nil]
    exact ⟨finishServerMax_resExt h, by split <;> rfl⟩

theorem finishOffer_codecs (r : Reading) :
    (finishOffer r).ext.inflator = r.ext.inflator ∧ (finishOffer r).ext.deflator = r.ext.deflator := by
  unfold finishOffer
  simp only [apply_ite (fun r : Reading => r.ext.inflator), apply_ite (fun r : Reading => r.ext.deflator),
    Reading.push_ext, ite_self, and_self]

/-- The server reads an offer of parameters of distinct kinds and answers it
with `offerAnswer`; of its configuration it sets only the resets: its
compressor's when `server_no_context_takeover` is offered and it accepts it,
its decompressor's when `client_no_context_takeover` is offered or it asks for
it. It rebuilds the codecs whose windows it echoes. -/
theorem receiveOffer_answer (ext : DeflateExt) (response : HeaderMap) {qs : List Param}
    (hf : Fresh Seen.empty qs) :
    (finishOffer ((Str.split (render qs) ';').foldl receiveParam ⟨ext, response, Offer.empty⟩)).offer.resExt =
        render (offerAnswer ext.config qs) ∧
      (finishOffer ((Str.split (render qs) ';').foldl receiveParam ⟨ext, response, Offer.empty⟩)).ext.config =
        { ext.config with
          compressReset := ext.config.compressReset ||
            decide (.serverNoContextTakeover ∈ qs) && ext.config.acceptNoContextTakeover,
          decompressReset := ext.config.decompressReset || decide (.clientNoContextTakeover ∈ qs) ||
            ext.config.requestNoContextTakeover } ∧
      (finishOffer ((Str.split (render qs) ';').foldl receiveParam ⟨ext, response, Offer.empty⟩)).ext.inflator =
        qs.foldl (readInflator ext.config) ext.inflator ∧
      (finishOffer ((Str.split (render qs) ';').foldl receiveParam ⟨ext, response, Offer.empty⟩)).ext.deflator =
        qs.foldl (readDeflator ext.config) ext.deflator := by
  have hread : (Str.split (render qs) ';').foldl receiveParam ⟨ext, response, Offer.empty⟩ =
      qs.foldl (fun r q => receiveParam r q.text) ((⟨ext, response, Offer.empty⟩ : Reading).push extName) := by
    rw [split_render, List.foldl_cons, receiveParam_extName, List.foldl_map]
    simp only [receiveParam_space]
  obtain ⟨h₁, h₂, hi, hd⟩ := foldl_receiveParam_fresh qs ((⟨ext, response, Offer.empty⟩ : Reading).push extName) hf
  obtain ⟨h₃, h₄⟩ := finishOffer_finishParams (h₁.trans rfl)
  rw [hread, h₃, h₄, h₂, foldl_readParam, (finishOffer_codecs _).1, (finishOffer_codecs _).2, hi, hd]
  simp only [clientNoContextTakeover_mem_flatMap_answerParam]
  refine ⟨rfl, ?_, rfl, rfl⟩
  split <;> simp_all

/-- `on_receive_request` on one header value, whose offer the loop reads into
`r` and answers with the header value `answer`. -/
theorem receiveOffers_single {ext : DeflateExt} {response : HeaderMap} {header : HeaderValue} {s : Str}
    (ht : header.toStr = .ok s) {r : Reading}
    (hr : finishOffer ((Str.split s ';').foldl receiveParam ⟨ext, response, Offer.empty⟩) = r)
    {answer : Str} (ha : r.offer.resExt = answer) (hv : answer.all isValueChar = true) :
    receiveOffers ext response [header] =
      if !Str.contains answer "client_max_window_bits".toList && r.ext.config.maxWindowBits < 15 then
        ((r.ext.decline r.response).1, (r.ext.decline r.response).2, .ok ())
      else ({ r.ext with enabled := true }, r.response.insert secWebsocketExtensions ⟨answer, hv⟩, .ok ()) := by
  subst ha
  simp only [receiveOffers, ht, hr, HeaderValue.fromStr_of_valid hv]

/-- `on_receive_request` on a request whose one extension header is an offer
of distinct kinds: the loop answers it, then goes on to no header when the
answer lacks `client_max_window_bits` and the server's window is below 15. -/
theorem onReceiveRequest_offer (ext : DeflateExt) (response : HeaderMap) {request : HeaderMap} {v : HeaderValue}
    {qs : List Param} (hreq : request.getAll secWebsocketExtensions = [v]) (hv : v.chars = render qs)
    (hf : Fresh Seen.empty qs) :
    ∃ r : Reading, r.ext.config = { ext.config with
        compressReset := ext.config.compressReset ||
          decide (.serverNoContextTakeover ∈ qs) && ext.config.acceptNoContextTakeover,
        decompressReset := ext.config.decompressReset || decide (.clientNoContextTakeover ∈ qs) ||
          ext.config.requestNoContextTakeover } ∧
      r.ext.inflator = qs.foldl (readInflator ext.config) ext.inflator ∧
      r.ext.deflator = qs.foldl (readDeflator ext.config) ext.deflator ∧
      ext.onReceiveRequest request response =
        if qs.any Param.isClientMax || !decide (ext.config.maxWindowBits < 15) then
          ({ r.ext with enabled := true },
            r.response.insert secWebsocketExtensions ⟨render (offerAnswer ext.config qs), render_valid _⟩, .ok ())
        else ((r.ext.decline r.response).1, (r.ext.decline r.response).2, .ok ()) := by
  obtain ⟨ha, hc, hi, hd⟩ := receiveOffer_answer ext response hf
  generalize hr : finishOffer ((Str.split (render qs) ';').foldl receiveParam ⟨ext, response, Offer.empty⟩) = r
    at ha hc hi hd
  refine ⟨r, hc, hi, hd, ?_⟩
  rw [onReceiveRequest, hreq, receiveOffers_single (toStr_of_render hv) hr ha (render_valid _),
    contains_render_clientMax, offerAnswer_any_isClientMax, hc]
  cases qs.any Param.isClientMax <;> cases decide (ext.config.maxWindowBits < 15) <;> rfl

/-- A request whose extension header is one offer of `permessage-deflate` with
parameters of distinct kinds: the server never fails on it. It enables the
extension exactly when the offer names `client_max_window_bits` or its own
window is 15, and then answers with `offerAnswer`; otherwise it declines.
Either way it keeps its configuration but for the resets: its compressor's
when `server_no_context_takeover` is offered and it accepts it, its
decompressor's when `client_no_context_takeover` is offered or it asks for
it; and it rebuilds its decompressor with the client's window, its compressor
with the window asked of it, when it echoes them. -/
theorem server_answers_offer (ext : DeflateExt) {request response : HeaderMap} {v : HeaderValue}
    {qs : List Param} (hreq : request.getAll secWebsocketExtensions = [v]) (hv : v.chars = render qs)
    (hf : Fresh Seen.empty qs) :
    ∃ ext' response', ext.onReceiveRequest request response = (ext', response', .ok ()) ∧
      (ext'.enabled = true ↔ qs.any Param.isClientMax = true ∨ 15 ≤ ext.config.maxWindowBits) ∧
      (ext'.enabled = true →
        response'.getAll secWebsocketExtensions = [⟨render (offerAnswer ext.config qs), render_valid _⟩]) ∧
      ext'.config = { ext.config with
        compressReset := ext.config.compressReset ||
          decide (.serverNoContextTakeover ∈ qs) && ext.config.acceptNoContextTakeover,
        decompressReset := ext.config.decompressReset || decide (.clientNoContextTakeover ∈ qs) ||
          ext.config.requestNoContextTakeover } ∧
      ext'.inflator = qs.foldl (readInflator ext.config) ext.inflator ∧
      ext'.deflator = qs.foldl (readDeflator ext.config) ext.deflator := by
  obtain ⟨r, hc, hi, hd, hs⟩ := onReceiveRequest_offer ext response hreq hv hf
  split at hs
  · rename_i h
    refine ⟨_, _, hs, iff_of_true rfl ?_, fun _ => HeaderMap.getAll_insert_self _ _ _, hc, hi, hd⟩
    simpa using h
  · rename_i h
    refine ⟨_, _, hs, iff_of_false (by simp [decline]) ?_, fun h => by simp [decline] at h, hc, hi, hd⟩
    simpa using h

/-- A server configured by default reads the offer `client_max_window_bits=10;
server_no_context_takeover`: it answers with the client's window, the
takeover parameter and its own 15-bit window, resets its compressor, and
decompresses with a 10-bit window. -/
theorem server_answers_offer_default :
    ∃ ext' response', (new DeflateConfig.default).onReceiveRequest ⟨[(secWebsocketExtensions,
        ⟨render [.clientMaxWindowBits (some 10), .serverNoContextTakeover], render_valid _⟩)]⟩ ⟨[]⟩ =
        (ext', response', .ok ()) ∧ ext'.enabled = true ∧
      response'.getAll secWebsocketExtensions = [⟨render
        [.clientMaxWindowBits (some 10), .serverNoContextTakeover, .serverMaxWindowBits 15], render_valid _⟩] ∧
      ext'.config = { DeflateConfig.default with compressReset := true } ∧
      ext'.inflator = Inflator.newWithWindowBits 10 := by
  obtain ⟨ext', response', h, he, hr, hc, hi, -⟩ := @server_answers_offer (new DeflateConfig.default)
    ⟨[(secWebsocketExtensions, ⟨render [.clientMaxWindowBits (some 10), .serverNoContextTakeover], render_valid _⟩)]⟩
    ⟨[]⟩ _ [.clientMaxWindowBits (some 10), .serverNoContextTakeover] rfl rfl ⟨rfl, rfl, trivial⟩
  exact ⟨ext', response', h, he.2 (.inl rfl), hr (he.2 (.inl rfl)), hc, hi⟩

end DeflateExt

end Tungstenite
