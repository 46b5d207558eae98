import DebugTypes.Proofs.Decoding.Ends

/-!
# The language of wrap chains

A wrap chain is a sequence of operators, each of which takes one token or two: `p` alone is a
pointer, `a` with a length an array, and any other token with the id of a record a function.  Since
almost every token is an operator, a token that is read in the wrong place would shift all that
follows it.  Here the chain has a grammar of its own, which knows nothing of types or sessions, and
reading is compared with it: the operators of the chain are resolved from left to right, each in the
session that the ones before it leave, and go around the type in this order.

## Main definitions

* `WrapOperation` — an operator with the value of its operand.
* `WrapOperation.Spelled`, `ChainSpelled` — the tokens of one operator, and of many.
* `Layer` — what an operator puts around a type.
* `WrapOperation.Resolves`, `ChainResolves` — what operators stand for in a session.
* `Breaks` — why the first operator of a list of tokens cannot be read.

## Main statements

* `exists_chain` — tokens are a chain, or the beginning of one up to an operator that breaks.
* `Session.decode_wrap` — what a wrap chain is read to, and when that fails.
-/

namespace DebugTypes

/-! ## The grammar -/

/-- An operator of a wrap chain with the value of its operand. -/
inductive WrapOperation where
  | pointer
  | array (length : UInt64)
  | function (convention : Convention) (id : UInt32)
  deriving DecidableEq, Repr

/-- The tokens for functions of a convention: the default one has every token that means nothing
else. -/
def FunctionToken : Convention → String → Prop
  | .stdcall, token => token = "F"
  | .default, token => token ≠ "a" ∧ token ≠ "p" ∧ token ≠ "F"

/-- The tokens of an operator. -/
inductive WrapOperation.Spelled : WrapOperation → List String → Prop where
  | pointer : Spelled .pointer ["p"]
  | array {operand : String} {length : UInt64}
      (hoperand : Text.integer? UInt64 operand = some length) :
      Spelled (.array length) ["a", operand]
  | function {convention : Convention} {token operand : String} {id : UInt32}
      (htoken : FunctionToken convention token)
      (hoperand : Text.integer? UInt32 operand = some id) :
      Spelled (.function convention id) [token, operand]

/-- The tokens of operators one after the other. -/
inductive ChainSpelled : List WrapOperation → List String → Prop where
  | nil : ChainSpelled [] []
  | cons {operation : WrapOperation} {operations : List WrapOperation} {tokens rest : List String}
      (head : operation.Spelled tokens) (tail : ChainSpelled operations rest) :
      ChainSpelled (operation :: operations) (tokens ++ rest)

/-! ## What operators stand for -/

/-- What an operator puts around a type. -/
inductive Layer where
  | pointer
  | array (length : UInt64)
  | function (convention : Convention) (parameters : List CType)

/-- A type inside a layer. -/
def Layer.around : Layer → CType → CType
  | pointer, t => .pointer t
  | array length, t => .array t length
  | function convention parameters, t => .function t convention parameters

/-- The layer of an operator in a session, and the session afterwards.  Only functions look a record
up, and its parameters may look up more. -/
inductive WrapOperation.Resolves : WrapOperation → Session → Layer → Session → Prop where
  | pointer (s : Session) : Resolves .pointer s .pointer s
  | array (length : UInt64) (s : Session) : Resolves (.array length) s (.array length) s
  | function {convention : Convention} {id : UInt32} {record : Element} {parameters : List CType}
      {s s₁ s₂ : Session} (found : Session.find .functions id s = (.ok record, s₁))
      (content : Session.decode (Record.parameters record) s₁ = (.ok parameters, s₂)) :
      Resolves (.function convention id) s (.function convention parameters) s₂

/-- The layers of operators, each in the session that the ones before it leave. -/
inductive ChainResolves : List WrapOperation → Session → List Layer → Session → Prop where
  | nil (s : Session) : ChainResolves [] s [] s
  | cons {operation : WrapOperation} {operations : List WrapOperation} {layer : Layer}
      {layers : List Layer} {s s₁ s₂ : Session} (head : operation.Resolves s layer s₁)
      (tail : ChainResolves operations s₁ layers s₂) :
      ChainResolves (operation :: operations) s (layer :: layers) s₂

/-- The first operator of a list of tokens cannot be read: the error, and the session that it
leaves.  The text is that of the whole chain. -/
inductive Breaks (text : String) : List String → Session → ReadError → Session → Prop where
  | missing {token : String} (s : Session) (htoken : token ≠ "p") :
      Breaks text [token] s (.malformedDescriptor text .missingOperand) s
  | length {operand : String} (rest : List String) (s : Session)
      (hoperand : Text.integer? UInt64 operand = none) :
      Breaks text ("a" :: operand :: rest) s (.invalidNumber "wrap" operand) s
  | id {convention : Convention} {token operand : String} (rest : List String) (s : Session)
      (htoken : FunctionToken convention token) (hoperand : Text.integer? UInt32 operand = none) :
      Breaks text (token :: operand :: rest) s (.invalidNumber "wrap" operand) s
  | lost {convention : Convention} {token operand : String} {id : UInt32} (rest : List String)
      {s s₁ : Session} {e : ReadError} (htoken : FunctionToken convention token)
      (hoperand : Text.integer? UInt32 operand = some id)
      (found : Session.find .functions id s = (.error e, s₁)) :
      Breaks text (token :: operand :: rest) s e s₁
  | broken {convention : Convention} {token operand : String} {id : UInt32} (rest : List String)
      {record : Element} {s s₁ s₂ : Session} {e : ReadError}
      (htoken : FunctionToken convention token) (hoperand : Text.integer? UInt32 operand = some id)
      (found : Session.find .functions id s = (.ok record, s₁))
      (content : Session.decode (Record.parameters record) s₁ = (.error e, s₂)) :
      Breaks text (token :: operand :: rest) s e s₂

/-- Every token but `a` and `p` is one for functions. -/
theorem exists_functionToken {token : String} (ha : token ≠ "a") (hp : token ≠ "p") :
    ∃ convention, FunctionToken convention token := by
  by_cases hF : token = "F"
  · exact ⟨.stdcall, hF⟩
  · exact ⟨.default, ha, hp, hF⟩

theorem FunctionToken.ofToken_eq {convention : Convention} {token : String}
    (h : FunctionToken convention token) : WrapOperator.ofToken token = .function convention := by
  cases convention with
  | stdcall =>
      rw [show token = "F" from h]
      rfl
  | default =>
      obtain ⟨ha, hp, hF⟩ := h
      simp [WrapOperator.ofToken, ha, hp, hF]

/-! ## Reading one operator -/

namespace Record

variable (text : String) (rest : List String) (t : CType)

theorem wrapTokens_array (operand : String) :
    wrapTokens text ("a" :: operand :: rest) t =
      (Recipe.ofExcept (readInteger UInt64 "wrap" operand)).bind fun length =>
        wrapTokens text rest (.array t length) := rfl

theorem wrapTokens_function {convention : Convention} {token : String}
    (h : FunctionToken convention token) (operand : String) :
    wrapTokens text (token :: operand :: rest) t =
      (Recipe.ofExcept (readInteger UInt32 "wrap" operand)).bind fun id =>
        (Recipe.askParameters id).bind fun parameters =>
          wrapTokens text rest (.function t convention parameters) := by
  rw [wrapTokens.eq_def text (token :: operand :: rest)]
  simp only [h.ofToken_eq]
  rfl

/-- A function operator with an id asks for the parameters of its record. -/
theorem wrapTokens_function_of_id {convention : Convention} {token operand : String} {id : UInt32}
    (h : FunctionToken convention token) (hoperand : Text.integer? UInt32 operand = some id) :
    wrapTokens text (token :: operand :: rest) t =
      .ask .functions id fun parameters =>
        wrapTokens text rest (.function t convention parameters) := by
  rw [wrapTokens_function text rest t h, readInteger, hoperand]
  rfl

theorem wrapTokens_missing {token : String} (h : token ≠ "p") :
    wrapTokens text [token] t = .fail (.malformedDescriptor text .missingOperand) := by
  by_cases ha : token = "a"
  · subst ha
    rfl
  · obtain ⟨convention, htoken⟩ := exists_functionToken ha h
    rw [wrapTokens.eq_def]
    simp only [htoken.ofToken_eq]

theorem wrap_of_short {text : String} {t : CType} (h : (Text.wordsOf text).length ≤ 1024) :
    wrap text t = wrapTokens text (Text.wordsOf text) t := if_neg (Nat.not_lt.2 h)

theorem wrap_of_long {text : String} {t : CType} (h : 1024 < (Text.wordsOf text).length) :
    wrap text t = .fail (.malformedDescriptor text .tooLong) := if_pos h

end Record

/-- The first operator of some tokens is resolved or breaks. -/
theorem resolves_or_breaks (text token : String) (rest : List String) (s : Session) :
    (∃ operation tokens later layer s₁, token :: rest = tokens ++ later ∧ tokens ≠ [] ∧
      WrapOperation.Spelled operation tokens ∧ operation.Resolves s layer s₁) ∨
      ∃ e s₁, Breaks text (token :: rest) s e s₁ := by
  by_cases hp : token = "p"
  · subst hp
    exact .inl ⟨_, ["p"], rest, _, s, rfl, List.cons_ne_nil _ _, .pointer, .pointer s⟩
  · cases rest with
    | nil => exact .inr ⟨_, s, .missing s hp⟩
    | cons operand rest =>
        by_cases ha : token = "a"
        · subst ha
          cases hlength : Text.integer? UInt64 operand with
          | none => exact .inr ⟨_, s, .length rest s hlength⟩
          | some length =>
              exact .inl ⟨_, ["a", operand], rest, _, s, rfl, List.cons_ne_nil _ _,
                .array hlength, .array length s⟩
        · obtain ⟨convention, htoken⟩ := exists_functionToken ha hp
          cases hid : Text.integer? UInt32 operand with
          | none => exact .inr ⟨_, s, .id rest s htoken hid⟩
          | some id =>
              rcases found : Session.find .functions id s with ⟨e | record, s₁⟩
              · exact .inr ⟨e, s₁, .lost rest htoken hid found⟩
              · rcases content : Session.decode (Record.parameters record) s₁ with
                  ⟨e | parameters, s₂⟩
                · exact .inr ⟨e, s₂, .broken rest htoken hid found content⟩
                · exact .inl ⟨_, [token, operand], rest, _, s₂, rfl, List.cons_ne_nil _ _,
                    .function htoken hid, .function found content⟩

/-! ## Reading a chain -/

/-- Tokens are a chain that is resolved, or begin with one up to an operator that breaks. -/
theorem exists_chain (text : String) (tokens : List String) (s : Session) :
    ∃ operations spelled rest layers s₁, tokens = spelled ++ rest ∧
      ChainSpelled operations spelled ∧ ChainResolves operations s layers s₁ ∧
      (rest = [] ∨ ∃ e s₂, Breaks text rest s₁ e s₂) := by
  -- Each operator takes at least one token, so that the induction is on their number.
  induction hn : tokens.length using Nat.strongRecOn generalizing tokens s with
  | ind n ih =>
      subst hn
      cases tokens with
      | nil => exact ⟨[], [], [], [], s, rfl, .nil, .nil s, .inl rfl⟩
      | cons token rest =>
          rcases resolves_or_breaks text token rest s with
            ⟨operation, head, later, layer, s₁, htokens, hne, hspelled, hresolves⟩ | hbreaks
          · have hlt : later.length < (token :: rest).length := by
              rw [htokens, List.length_append]
              exact Nat.lt_add_of_pos_left (List.length_pos_iff.2 hne)
            obtain ⟨operations, spelled, rest', layers, s₂, hlater, hchain, hall, hend⟩ :=
              ih later.length hlt later s₁ rfl
            refine ⟨operation :: operations, head ++ spelled, rest', layer :: layers, s₂, ?_,
              .cons hspelled hchain, .cons hresolves hall, hend⟩
            rw [htokens, hlater, List.append_assoc]
          · exact ⟨[], [], token :: rest, [], s, rfl, .nil, .nil s, .inr hbreaks⟩

namespace Session

variable {text : String} {operations : List WrapOperation} {tokens : List String}
  {layers : List Layer} {s s₁ : Session} {e : ReadError}

/-- An operator that is resolved goes around the type, and the chain goes on after it. -/
theorem decode_wrapTokens_append {operation : WrapOperation} {layer : Layer}
    (h : operation.Spelled tokens) (hr : operation.Resolves s layer s₁) (text : String)
    (rest : List String) (t : CType) :
    decode (Record.wrapTokens text (tokens ++ rest) t) s =
      decode (Record.wrapTokens text rest (layer.around t)) s₁ := by
  cases h with
  | pointer =>
      cases hr
      rfl
  | array hoperand =>
      cases hr
      rw [List.cons_append, List.cons_append, List.nil_append, Record.wrapTokens_array, readInteger,
        hoperand]
      rfl
  | function htoken hoperand =>
      cases hr with
      | function found content =>
          rw [List.cons_append, List.cons_append, List.nil_append,
            Record.wrapTokens_function_of_id text rest t htoken hoperand, decode_ask, found]
          simp only [Record.content, content]
          rfl

/-- A chain that is resolved goes around the type from the inside out. -/
theorem decode_wrapTokens_chain (h : ChainSpelled operations tokens)
    (hr : ChainResolves operations s layers s₁) (text : String) (rest : List String) (t : CType) :
    decode (Record.wrapTokens text (tokens ++ rest) t) s =
      decode (Record.wrapTokens text rest (layers.foldl (fun t layer => layer.around t) t)) s₁ := by
  induction h generalizing s layers t with
  | nil =>
      cases hr
      rfl
  | cons head tail ih =>
      cases hr with
      | cons hhead htail =>
          rw [List.append_assoc, decode_wrapTokens_append head hhead, ih htail, List.foldl_cons]

/-- An operator that cannot be read ends the chain, whatever the type is. -/
theorem decode_wrapTokens_breaks (h : Breaks text tokens s e s₁) (t : CType) :
    decode (Record.wrapTokens text tokens t) s = (.error e, s₁) := by
  cases h with
  | missing _ htoken => rw [Record.wrapTokens_missing text t htoken, decode_fail]
  | length rest _ hoperand =>
      rw [Record.wrapTokens_array, readInteger, hoperand]
      rfl
  | id rest _ htoken hoperand =>
      rw [Record.wrapTokens_function text rest t htoken, readInteger, hoperand]
      rfl
  | lost rest htoken hoperand found =>
      rw [Record.wrapTokens_function_of_id text rest t htoken hoperand, decode_ask, found]
  | broken rest htoken hoperand found content =>
      rw [Record.wrapTokens_function_of_id text rest t htoken hoperand, decode_ask, found]
      simp only [Record.content, content]

/-- A chain that ends has been read to the type inside its layers. -/
theorem decode_wrapTokens_of_resolves (h : ChainSpelled operations tokens)
    (hr : ChainResolves operations s layers s₁) (text : String) (t : CType) :
    decode (Record.wrapTokens text tokens t) s =
      (.ok (layers.foldl (fun t layer => layer.around t) t), s₁) := by
  have hchain := decode_wrapTokens_chain h hr text [] t
  rwa [List.append_nil] at hchain

/-- A chain with an operator that cannot be read fails there. -/
theorem decode_wrapTokens_of_breaks {rest : List String} {s₂ : Session}
    (h : ChainSpelled operations tokens) (hr : ChainResolves operations s layers s₁)
    (hbreaks : Breaks text rest s₁ e s₂) (t : CType) :
    decode (Record.wrapTokens text (tokens ++ rest) t) s = (.error e, s₂) := by
  rw [decode_wrapTokens_chain h hr, decode_wrapTokens_breaks hbreaks]

variable {t u : CType} {s₂ : Session}

/-- A text is read as a wrap chain where its words are a chain that is resolved. -/
theorem decode_wrap_eq_ok_iff :
    decode (Record.wrap text t) s = (.ok u, s₁) ↔
      (Text.wordsOf text).length ≤ 1024 ∧
        ∃ operations layers, ChainSpelled operations (Text.wordsOf text) ∧
          ChainResolves operations s layers s₁ ∧
          u = layers.foldl (fun t layer => layer.around t) t := by
  rcases Nat.lt_or_ge 1024 (Text.wordsOf text).length with hlong | hshort
  · rw [Record.wrap_of_long hlong, decode_fail]
    constructor
    · intro h
      cases h
    · rintro ⟨hle, -⟩
      omega
  · rw [Record.wrap_of_short hshort]
    constructor
    · intro h
      refine ⟨hshort, ?_⟩
      obtain ⟨operations, spelled, rest, layers, s₂, hwords, hchain, hall,
        rfl | ⟨e, s₃, hbreaks⟩⟩ := exists_chain text (Text.wordsOf text) s
      · rw [List.append_nil] at hwords
        subst hwords
        rw [decode_wrapTokens_of_resolves hchain hall] at h
        cases h
        exact ⟨operations, layers, hchain, hall, rfl⟩
      · rw [hwords, decode_wrapTokens_of_breaks hchain hall hbreaks] at h
        cases h
    · rintro ⟨-, operations, layers, hchain, hall, rfl⟩
      exact decode_wrapTokens_of_resolves hchain hall text t

/-- A text is refused as a wrap chain if it is too long, or for the first operator that breaks. -/
theorem decode_wrap_eq_error_iff :
    decode (Record.wrap text t) s = (.error e, s₂) ↔
      (1024 < (Text.wordsOf text).length ∧ e = .malformedDescriptor text .tooLong ∧ s₂ = s) ∨
        (Text.wordsOf text).length ≤ 1024 ∧
          ∃ operations spelled rest layers s₁, Text.wordsOf text = spelled ++ rest ∧
            ChainSpelled operations spelled ∧ ChainResolves operations s layers s₁ ∧
            Breaks text rest s₁ e s₂ := by
  rcases Nat.lt_or_ge 1024 (Text.wordsOf text).length with hlong | hshort
  · rw [Record.wrap_of_long hlong, decode_fail]
    constructor
    · intro h
      cases h
      exact .inl ⟨hlong, rfl, rfl⟩
    · rintro (⟨-, rfl, rfl⟩ | ⟨hle, -⟩)
      · rfl
      · omega
  · rw [Record.wrap_of_short hshort]
    constructor
    · intro h
      refine .inr ⟨hshort, ?_⟩
      obtain ⟨operations, spelled, rest, layers, s₁, hwords, hchain, hall,
        rfl | ⟨e', s₃, hbreaks⟩⟩ := exists_chain text (Text.wordsOf text) s
      · rw [hwords, List.append_nil, decode_wrapTokens_of_resolves hchain hall] at h
        cases h
      · rw [hwords, decode_wrapTokens_of_breaks hchain hall hbreaks] at h
        cases h
        exact ⟨operations, spelled, rest, layers, s₁, hwords, hchain, hall, hbreaks⟩
    · rintro (⟨hlong, -⟩ | ⟨-, operations, spelled, rest, layers, s₁, hwords, hchain, hall,
        hbreaks⟩)
      · omega
      · rw [hwords]
        exact decode_wrapTokens_of_breaks hchain hall hbreaks t

/-- **The language of wrap chains.**  A text is read as a wrap chain exactly if its words are at
most 1024 and spell operators one after the other, of which each is resolved in the session that the
ones before it leave.  The result is then the type inside their layers, the last one outermost, and
nothing of the text counts but its words.  Otherwise it fails: if there are too many words, before
anything is looked up, and else at the first operator that cannot be read, in the session that the
ones before it leave. -/
theorem decode_wrap (text : String) (t : CType) (s : Session) :
    (∀ u s₁, decode (Record.wrap text t) s = (.ok u, s₁) ↔
      (Text.wordsOf text).length ≤ 1024 ∧
        ∃ operations layers, ChainSpelled operations (Text.wordsOf text) ∧
          ChainResolves operations s layers s₁ ∧
          u = layers.foldl (fun t layer => layer.around t) t) ∧
      (∀ e s₂, decode (Record.wrap text t) s = (.error e, s₂) ↔
        (1024 < (Text.wordsOf text).length ∧ e = .malformedDescriptor text .tooLong ∧ s₂ = s) ∨
          (Text.wordsOf text).length ≤ 1024 ∧
            ∃ operations spelled rest layers s₁, Text.wordsOf text = spelled ++ rest ∧
              ChainSpelled operations spelled ∧ ChainResolves operations s layers s₁ ∧
              Breaks text rest s₁ e s₂) ∧
      ∀ other, Text.wordsOf other = Text.wordsOf text → ∀ u s₁,
        decode (Record.wrap other t) s = (.ok u, s₁) ↔
          decode (Record.wrap text t) s = (.ok u, s₁) := by
  refine ⟨fun u s₁ => decode_wrap_eq_ok_iff, fun e s₂ => decode_wrap_eq_error_iff, ?_⟩
  intro other hother u s₁
  rw [decode_wrap_eq_ok_iff, decode_wrap_eq_ok_iff, hother]

end Session

end DebugTypes
