import Tungstenite.Deflate.Negotiation

/-!
# The texts of negotiation

Both sides write an offer or an answer as the extension's name, then each
parameter after `; ` (`render`, over `Param`); the client's offer is so
written (`onMakeRequest_render`). This module reads such a text back as the
code does:

* `split_render`: splitting at `;` gives the name and each parameter after
  its blank;
* `infix_render`: a parameter's name occurs in the text only inside that
  parameter, so `contains` tells which kinds the text holds
  (`contains_render_clientMax` and the like);
* `Fresh`: parameters of distinct kinds, the lists on which neither side's
  check for a parameter given twice fires (`Seen.has`, `Seen.mark`), with
  `fresh_append` and `Fresh.of_mark` to build them.
-/

namespace Tungstenite

namespace DeflateExt

/-- A parameter of a `permessage-deflate` offer or answer, as both sides write
it; a window with no value is the client's `client_max_window_bits`. -/
inductive Param
  | clientMaxWindowBits (bits : Option UInt8)
  | serverMaxWindowBits (bits : UInt8)
  | serverNoContextTakeover
  | clientNoContextTakeover
  deriving DecidableEq, Repr

/-- A parameter's text. -/
def Param.text : Param → Str
  | .clientMaxWindowBits none => "client_max_window_bits".toList
  | .clientMaxWindowBits (some b) => "client_max_window_bits=".toList ++ bitsText b
  | .serverMaxWindowBits b => "server_max_window_bits=".toList ++ bitsText b
  | .serverNoContextTakeover => "server_no_context_takeover".toList
  | .clientNoContextTakeover => "client_no_context_takeover".toList

/-- Whether a parameter is `client_max_window_bits`. -/
def Param.isClientMax : Param → Bool
  | .clientMaxWindowBits _ => true
  | _ => false

/-- Whether a parameter is `server_max_window_bits`. -/
def Param.isServerMax : Param → Bool
  | .serverMaxWindowBits _ => true
  | _ => false

@[simp] theorem Param.isClientMax_clientMax (b : Option UInt8) : (Param.clientMaxWindowBits b).isClientMax = true :=
  rfl
@[simp] theorem Param.isClientMax_serverMax (b : UInt8) : (Param.serverMaxWindowBits b).isClientMax = false := rfl
@[simp] theorem Param.isClientMax_serverNoContextTakeover : Param.serverNoContextTakeover.isClientMax = false := rfl
@[simp] theorem Param.isClientMax_clientNoContextTakeover : Param.clientNoContextTakeover.isClientMax = false := rfl
@[simp] theorem Param.isServerMax_clientMax (b : Option UInt8) : (Param.clientMaxWindowBits b).isServerMax = false :=
  rfl
@[simp] theorem Param.isServerMax_serverMax (b : UInt8) : (Param.serverMaxWindowBits b).isServerMax = true := rfl
@[simp] theorem Param.isServerMax_serverNoContextTakeover : Param.serverNoContextTakeover.isServerMax = false := rfl
@[simp] theorem Param.isServerMax_clientNoContextTakeover : Param.clientNoContextTakeover.isServerMax = false := rfl

/-- A header value of the extension: its name, then each parameter after `; `. -/
def render (ps : List Param) : Str := extName ++ ps.flatMap fun p => "; ".toList ++ p.text

/-- The window parameters of the client's offer: both windows when its own is
below 15, else `client_max_window_bits` with no value. -/
def windowOffer (bits : UInt8) : List Param :=
  if bits < 15 then [.clientMaxWindowBits (some bits), .serverMaxWindowBits bits]
  else [.clientMaxWindowBits none]

/-- The parameters of the client's offer, as `on_make_request` writes them. -/
def offerParams (config : DeflateConfig) : List Param :=
  windowOffer config.maxWindowBits ++
    (if config.requestNoContextTakeover then [.serverNoContextTakeover] else [])

/-- Every character of a parameter's text is visible ASCII. -/
theorem Param.visible_text (p : Param) : p.text.all isVisibleAscii = true := by
  have hd : ∀ b : UInt8, (bitsText b).all isVisibleAscii = true := fun b =>
    Str.all_toDigitsCore (by decide) _ _ rfl
  cases p with
  | clientMaxWindowBits v =>
    cases v with
    | none => decide
    | some b => simp only [Param.text, List.all_append, hd, Bool.and_true]; decide
  | serverMaxWindowBits b => simp only [Param.text, List.all_append, hd, Bool.and_true]; decide
  | serverNoContextTakeover => decide
  | clientNoContextTakeover => decide

/-- A rendered text is visible ASCII, so `to_str` takes it and it is a header
value. -/
theorem render_visible (ps : List Param) : (render ps).all isVisibleAscii = true := by
  have h₁ : extName.all isVisibleAscii = true := by decide
  have h₂ : isVisibleAscii ';' = true := rfl
  have h₃ : isVisibleAscii ' ' = true := rfl
  simp [render, List.all_flatMap, Param.visible_text, h₁, h₂, h₃]

theorem render_valid (ps : List Param) : (render ps).all isValueChar = true :=
  List.all_eq_true.mpr fun c hc =>
    HeaderValue.isValueChar_of_isVisibleAscii (List.all_eq_true.mp (render_visible ps) c hc)

theorem render_append (ps qs : List Param) :
    render (ps ++ qs) = render ps ++ qs.flatMap fun p => "; ".toList ++ p.text := by
  simp [render, List.flatMap_append]

/-- The client's offer is its parameters rendered. -/
theorem onMakeRequest_render (ext : DeflateExt) (request : HeaderMap) :
    ∃ v : HeaderValue, ext.onMakeRequest request = .ret (request.append secWebsocketExtensions v) ∧
      v.chars = render (offerParams ext.config) := by
  have hr : extName ++
      (if ext.config.maxWindowBits < 15 then
        "; client_max_window_bits=".toList ++ bitsText ext.config.maxWindowBits ++
          "; server_max_window_bits=".toList ++ bitsText ext.config.maxWindowBits
      else "; client_max_window_bits".toList) ++
      (if ext.config.requestNoContextTakeover then "; server_no_context_takeover".toList else []) =
        render (offerParams ext.config) := by
    rw [offerParams, render_append, render, windowOffer]
    split <;> split <;> simp only [List.flatMap_cons, List.flatMap_nil, Param.text, List.append_assoc,
      List.append_nil] <;> rfl
  simp only [onMakeRequest, hr, HeaderValue.fromStr_of_valid (render_valid _)]
  exact ⟨_, rfl, rfl⟩

theorem toStr_of_render {v : HeaderValue} {ps : List Param} (h : v.chars = render ps) :
    v.toStr = .ok (render ps) := by
  rw [HeaderValue.toStr, h, if_pos (render_visible ps)]

/-! ## Reading a rendered text back -/

/-- A window size is written in decimal digits. -/
theorem bitsText_all_isDigit (b : UInt8) : (bitsText b).all Char.isDigit = true :=
  Str.all_toDigitsCore (fun m hm => (Str.digitChar_digit m hm).1) _ _ rfl

theorem bitsText_ne_nil (b : UInt8) : bitsText b ≠ [] := Str.toDigitsCore_succ_ne_nil _ _ _

theorem isWhitespace_of_isDigit {c : Char} (h : c.isDigit = true) : Str.isWhitespace c = false := by
  simp only [Char.isDigit, Bool.and_eq_true, decide_eq_true_eq] at h
  have h1 : 48 ≤ c.toNat := h.1
  have h2 : c.toNat ≤ 57 := h.2
  simp [Str.isWhitespace]
  omega

/-- No parameter's text holds white space. -/
theorem Param.isWhitespace_text (p : Param) : ∀ c ∈ p.text, Str.isWhitespace c = false := by
  have hd : ∀ (b : UInt8), ∀ c ∈ bitsText b, Str.isWhitespace c = false := fun b c hc =>
    isWhitespace_of_isDigit (List.all_eq_true.mp (bitsText_all_isDigit b) c hc)
  cases p with
  | clientMaxWindowBits b =>
    cases b with
    | none => decide
    | some b => exact List.forall_mem_append.mpr ⟨by decide, hd b⟩
  | serverMaxWindowBits b => exact List.forall_mem_append.mpr ⟨by decide, hd b⟩
  | serverNoContextTakeover => decide
  | clientNoContextTakeover => decide

theorem not_mem_bitsText {c : Char} (h : c.isDigit = false) (b : UInt8) : c ∉ bitsText b := fun hc => by
  rw [List.all_eq_true.mp (bitsText_all_isDigit b) c hc] at h
  cases h

theorem Param.semicolon_not_mem_text (p : Param) : ';' ∉ p.text := by
  cases p with
  | clientMaxWindowBits b =>
    cases b with
    | none => decide
    | some b => exact List.not_mem_append (by decide) (not_mem_bitsText (by decide : (';').isDigit = false) b)
  | serverMaxWindowBits b => exact List.not_mem_append (by decide) (not_mem_bitsText (by decide : (';').isDigit = false) b)
  | serverNoContextTakeover => decide
  | clientNoContextTakeover => decide

theorem split_flatMap {a : Str} (ha : ';' ∉ a) (ps : List Param) :
    Str.split (a ++ ps.flatMap fun p => "; ".toList ++ p.text) ';' = a :: ps.map fun p => ' ' :: p.text := by
  induction ps generalizing a with
  | nil => rw [List.flatMap_nil, List.append_nil, Str.split_of_not_mem ha, List.map_nil]
  | cons p ps ih =>
    have hp : ';' ∉ ' ' :: p.text := List.not_mem_cons_of_ne_of_not_mem (by decide) p.semicolon_not_mem_text
    have e : ∀ t : Str, "; ".toList ++ p.text ++ t = ';' :: ((' ' :: p.text) ++ t) := fun _ => rfl
    rw [List.flatMap_cons, e, Str.split_append_cons ha, ih hp, List.map_cons]

/-- `split` at `;` gives a rendered text's parts back: the name, then each
parameter after its blank. -/
theorem split_render (ps : List Param) :
    Str.split (render ps) ';' = extName :: ps.map fun p => ' ' :: p.text :=
  split_flatMap (by decide) ps

/-- A pattern that holds neither `;` nor a blank occurs in a rendered text only
inside the name or inside one parameter's text. -/
theorem infix_flatMap {pat : Str} (hp : pat ≠ []) (hs : ';' ∉ pat) (hb : ' ' ∉ pat) (ps : List Param) :
    ∀ {a : Str}, pat <:+: a ++ (ps.flatMap fun p => "; ".toList ++ p.text) ↔
      pat <:+: a ∨ ∃ p ∈ ps, pat <:+: p.text := by
  induction ps with
  | nil => simp
  | cons p ps ih =>
    intro a
    have hs' : ∀ c ∈ pat, c ∉ [';'] := fun c hc h => hs (List.mem_singleton.mp h ▸ hc)
    have hb' : ∀ c ∈ pat, c ∉ [' '] := fun c hc h => hb (List.mem_singleton.mp h ▸ hc)
    have e : ∀ t : Str, "; ".toList ++ p.text ++ t = [';'] ++ ([] ++ ([' '] ++ (p.text ++ t))) := fun _ => rfl
    rw [List.flatMap_cons, e, Str.infix_append_append_iff hp (List.cons_ne_nil _ _) hs',
      Str.infix_append_append_iff hp (List.cons_ne_nil _ _) hb', ih]
    simp only [List.infix_nil, hp, false_or, List.mem_cons, exists_eq_or_imp]

theorem infix_render {pat : Str} (hp : pat ≠ []) (hs : ';' ∉ pat) (hb : ' ' ∉ pat) (he : ¬pat <:+: extName)
    (ps : List Param) : pat <:+: render ps ↔ ∃ p ∈ ps, pat <:+: p.text := by
  rw [render, infix_flatMap hp hs hb, or_iff_right he]

/-- A pattern with no digit occurs in a text ending in a window size only
before it. -/
theorem infix_append_bitsText {pat : Str} (hp : pat ≠ []) (hd : ∀ c ∈ pat, c.isDigit = false) (a : Str)
    (b : UInt8) : pat <:+: a ++ bitsText b ↔ pat <:+: a := by
  rw [← List.append_nil (bitsText b), Str.infix_append_append_iff hp (bitsText_ne_nil b)
    fun c hc => not_mem_bitsText (hd c hc) b]
  simp [hp]

/-- A window size read back. -/
theorem parseU8_trim_bitsText (b : UInt8) : Str.parseU8 (Str.trim (bitsText b)) = .ok b := by
  rw [Str.trim_of_forall fun c hc => isWhitespace_of_isDigit (List.all_eq_true.mp (bitsText_all_isDigit b) c hc)]
  exact Str.parseU8_toDigits b

/-- A window parameter split at `=`: its name and its value. -/
theorem split_window {name : Str} (h : '=' ∉ name) (b : UInt8) :
    Str.split (name ++ '=' :: bitsText b) '=' = [name, bitsText b] := by
  rw [Str.split_append_cons h, Str.split_of_not_mem (not_mem_bitsText (by decide) b)]

/-- The five tests by which both sides tell a parameter's kind from its text
give that kind. -/
theorem Param.text_ne_extName (p : Param) : p.text ≠ extName := by
  rcases p with (_ | b) | b | _ | _ <;> simp [Param.text, extName]

theorem Param.text_eq_serverNoContextTakeover_iff (p : Param) :
    p.text = "server_no_context_takeover".toList ↔ p = .serverNoContextTakeover := by
  rcases p with (_ | b) | b | _ | _ <;> simp [Param.text]

theorem Param.text_eq_clientNoContextTakeover_iff (p : Param) :
    p.text = "client_no_context_takeover".toList ↔ p = .clientNoContextTakeover := by
  rcases p with (_ | b) | b | _ | _ <;> simp [Param.text]

theorem Param.startsWith_text_serverMax (p : Param) :
    Str.startsWith p.text "server_max_window_bits".toList = p.isServerMax := by
  rcases p with (_ | b) | b | _ | _ <;> simp [Param.text, Str.startsWith, List.isPrefixOf]

theorem Param.startsWith_text_clientMax (p : Param) :
    Str.startsWith p.text "client_max_window_bits".toList = p.isClientMax := by
  rcases p with (_ | b) | b | _ | _ <;> simp [Param.text, Str.startsWith, List.isPrefixOf]

/-- The three names `on_receive_request` looks for in its answer occur in a
parameter's text exactly when it is that parameter. -/
theorem infix_text_clientNoContextTakeover (q : Param) :
    "client_no_context_takeover".toList <:+: q.text ↔ q = .clientNoContextTakeover := by
  have hp : "client_no_context_takeover".toList ≠ [] := by decide
  have hd : ∀ c ∈ "client_no_context_takeover".toList, c.isDigit = false := by decide
  rcases q with (_ | b) | b | _ | _ <;>
    simp only [Param.text, infix_append_bitsText hp hd, Param.isServerMax, Param.isClientMax, reduceCtorEq] <;>
    decide

theorem infix_text_serverMax (q : Param) :
    "server_max_window_bits".toList <:+: q.text ↔ q.isServerMax = true := by
  have hp : "server_max_window_bits".toList ≠ [] := by decide
  have hd : ∀ c ∈ "server_max_window_bits".toList, c.isDigit = false := by decide
  rcases q with (_ | b) | b | _ | _ <;>
    simp only [Param.text, infix_append_bitsText hp hd, Param.isServerMax, Param.isClientMax, reduceCtorEq] <;>
    decide

theorem infix_text_clientMax (q : Param) :
    "client_max_window_bits".toList <:+: q.text ↔ q.isClientMax = true := by
  have hp : "client_max_window_bits".toList ≠ [] := by decide
  have hd : ∀ c ∈ "client_max_window_bits".toList, c.isDigit = false := by decide
  rcases q with (_ | b) | b | _ | _ <;>
    simp only [Param.text, infix_append_bitsText hp hd, Param.isServerMax, Param.isClientMax, reduceCtorEq] <;>
    decide

theorem contains_render_clientNoContextTakeover (ps : List Param) :
    Str.contains (render ps) "client_no_context_takeover".toList = decide (.clientNoContextTakeover ∈ ps) := by
  rw [Bool.eq_iff_iff, Str.contains_iff, infix_render (by decide) (by decide) (by decide) (by decide)]
  simp only [infix_text_clientNoContextTakeover]
  simp

theorem contains_render_serverMax (ps : List Param) :
    Str.contains (render ps) "server_max_window_bits".toList = ps.any Param.isServerMax := by
  rw [Bool.eq_iff_iff, Str.contains_iff, infix_render (by decide) (by decide) (by decide) (by decide)]
  simp only [infix_text_serverMax]
  simp

theorem contains_render_clientMax (ps : List Param) :
    Str.contains (render ps) "client_max_window_bits".toList = ps.any Param.isClientMax := by
  rw [Bool.eq_iff_iff, Str.contains_iff, infix_render (by decide) (by decide) (by decide) (by decide)]
  simp only [infix_text_clientMax]
  simp

/-! ## Kinds of parameters -/

/-- Whether the client has read a parameter of this kind. -/
def Seen.has (seen : Seen) : Param → Bool
  | .clientMaxWindowBits _ => seen.clientMaxWindowBits
  | .serverMaxWindowBits _ => seen.serverMaxWindowBits
  | .serverNoContextTakeover => seen.serverTakeover
  | .clientNoContextTakeover => seen.clientTakeover

/-- The flags after reading a parameter. -/
def Seen.mark (seen : Seen) : Param → Seen
  | .clientMaxWindowBits _ => { seen with clientMaxWindowBits := true }
  | .serverMaxWindowBits _ => { seen with serverMaxWindowBits := true }
  | .serverNoContextTakeover => { seen with serverTakeover := true }
  | .clientNoContextTakeover => { seen with clientTakeover := true }

/-- Parameters none of whose kinds was read before them. -/
def Fresh : Seen → List Param → Prop
  | _, [] => True
  | seen, q :: qs => seen.has q = false ∧ Fresh (seen.mark q) qs

/-- A parameter the client can read: a window, if it has a value, from 8 to 15. -/
def Param.Readable : Param → Prop
  | .clientMaxWindowBits (some b) => 8 ≤ b ∧ b ≤ 15
  | .serverMaxWindowBits b => 8 ≤ b ∧ b ≤ 15
  | _ => True

/-- A kind is read after reading `q` when it was read before or is `q`'s. -/
theorem Seen.has_mark (s : Seen) (q p : Param) : (s.mark q).has p = (s.has p || (Seen.empty.mark q).has p) := by
  cases q <;> cases p <;> first | exact (Bool.or_false _).symm | exact (Bool.or_true _).symm

@[simp] theorem Seen.has_empty (p : Param) : Seen.empty.has p = false := by
  cases p <;> rfl

theorem Seen.mark_comm (s : Seen) (p q : Param) : (s.mark p).mark q = (s.mark q).mark p := by
  cases p <;> cases q <;> rfl

theorem Seen.empty_mark_has_clientNoContextTakeover (q : Param) :
    (Seen.empty.mark q).has .clientNoContextTakeover = decide (q = .clientNoContextTakeover) := by
  cases q <;> rfl

theorem Seen.empty_mark_has_serverMax (q : Param) (b : UInt8) :
    (Seen.empty.mark q).has (.serverMaxWindowBits b) = q.isServerMax := by
  cases q <;> rfl

theorem Seen.has_foldl_mark (ps : List Param) (s : Seen) (p : Param) :
    (ps.foldl Seen.mark s).has p = (s.has p || ps.any fun q => (Seen.empty.mark q).has p) := by
  induction ps generalizing s with
  | nil => simp
  | cons q ps ih => rw [List.foldl_cons, ih, Seen.has_mark, List.any_cons, Bool.or_assoc]

/-- Forgetting that a kind was read keeps parameters fresh. -/
theorem Fresh.of_mark : ∀ {qs : List Param} {s : Seen} (q : Param), Fresh (s.mark q) qs → Fresh s qs
  | [], _, _, _ => trivial
  | p :: _, s, q, ⟨hs, hf⟩ => by
    rw [Seen.has_mark, Bool.or_eq_false_iff] at hs
    exact ⟨hs.1, Fresh.of_mark q (Seen.mark_comm s q p ▸ hf)⟩

/-- A list is fresh when its first part is, and its second part is fresh after
the kinds of the first. -/
theorem fresh_append : ∀ {s : Seen} {ps qs : List Param}, Fresh s ps → Fresh (ps.foldl Seen.mark s) qs →
    Fresh s (ps ++ qs)
  | _, [], _, _, h => h
  | _, _ :: _, _, ⟨hs, hf⟩, h => ⟨hs, fresh_append hf h⟩

theorem window_readable {b : UInt8} (h₁ : 9 ≤ b) (h₂ : b ≤ 15) : 8 ≤ b ∧ b ≤ 15 :=
  ⟨show 8 ≤ b.toNat by change 9 ≤ b.toNat at h₁; omega, h₂⟩

end DeflateExt

end Tungstenite
