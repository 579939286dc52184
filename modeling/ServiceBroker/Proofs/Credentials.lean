import ServiceBroker.Proofs.Transit

/-!
# Exactly the right credentials

A client puts its name and password into one header: a colon between them, the bytes of the text,
and these in base 64. The broker puts its own together in the same way and compares the two texts.
It never takes one apart, so that it lets the right client in, and no other, rests on three
readings that give back what was written: base 64 (`Text.fromBase64?_base64`), UTF-8, and the cut
at the first colon. The last of them needs a name without a colon (`Mock.Settings.admits_iff`).

Nothing else of a request counts at this gate, and a request that is held there is answered 401
and leaves the store alone (`Mock.credentials_are_checked`).
-/

namespace ServiceBroker

namespace Text

/-! ## Base 64 read back -/

/-- **The value of a digit of base 64.** Other characters, the pad among them, have none. -/
def base64Value? (c : Char) : Option Nat :=
  if 'A' ≤ c ∧ c ≤ 'Z' then some (c.toNat - 0x41)
  else if 'a' ≤ c ∧ c ≤ 'z' then some (c.toNat - 0x61 + 26)
  else if '0' ≤ c ∧ c ≤ '9' then some (c.toNat - 0x30 + 52)
  else if c = '+' then some 62
  else if c = '/' then some 63
  else none

/-- **The bytes of a padded text.** Only the last four characters may hold pads. -/
def fromBase64? : List Char → Option (List UInt8)
  | [] => some []
  | p :: q :: r :: s :: rest =>
    match base64Value? p, base64Value? q, base64Value? r, base64Value? s with
    | some p, some q, some r, some s =>
      (fromBase64? rest).map fun bytes =>
        .ofNat (p * 4 + q / 16) :: .ofNat (q % 16 * 16 + r / 4) :: .ofNat (r % 4 * 64 + s) :: bytes
    | some p, some q, some r, none =>
      if s = '=' ∧ rest = [] then some [.ofNat (p * 4 + q / 16), .ofNat (q % 16 * 16 + r / 4)]
      else none
    | some p, some q, none, none =>
      if r = '=' ∧ s = '=' ∧ rest = [] then some [.ofNat (p * 4 + q / 16)] else none
    | _, _, _, _ => none
  | _ => none

theorem base64Value?_base64Digit {n : Nat} (h : n < 64) :
    base64Value? (base64Digit n) = some n :=
  (by decide : ∀ n : Fin 64, base64Value? (base64Digit n.val) = some n.val) ⟨n, h⟩

theorem base64Value?_pad : base64Value? '=' = none := by decide

/-- **Bytes are read from their text.** -/
theorem fromBase64?_base64 (bytes : List UInt8) : fromBase64? (base64 bytes) = some bytes := by
  -- A group is cut into digits of six bits, and the digits make its bytes again.
  have byte {n : Nat} {b : UInt8} (h : n = b.toNat) : UInt8.ofNat n = b := by
    rw [h, UInt8.ofNat_toNat]
  induction bytes using base64.induct with
  | case1 => rfl
  | case2 a =>
    have first := a.toNat_lt
    unfold base64 fromBase64?
    rw [base64Value?_base64Digit (by omega), base64Value?_base64Digit (by omega),
      base64Value?_pad]
    dsimp only
    rw [if_pos ⟨rfl, rfl, rfl⟩, byte (b := a) (by omega)]
  | case3 a b =>
    have first := a.toNat_lt
    have second := b.toNat_lt
    unfold base64 fromBase64?
    rw [base64Value?_base64Digit (by omega), base64Value?_base64Digit (by omega),
      base64Value?_base64Digit (by omega), base64Value?_pad]
    dsimp only
    rw [if_pos ⟨rfl, rfl⟩, byte (b := a) (by omega), byte (b := b) (by omega)]
  | case4 a b c rest ih =>
    have first := a.toNat_lt
    have second := b.toNat_lt
    have third := c.toNat_lt
    unfold base64
    conv => lhs; unfold fromBase64?
    rw [base64Value?_base64Digit (by omega), base64Value?_base64Digit (by omega),
      base64Value?_base64Digit (by omega), base64Value?_base64Digit (by omega), ih]
    dsimp only [Option.map_some]
    rw [byte (b := a) (by omega), byte (b := b) (by omega), byte (b := c) (by omega)]

/-- Texts with the same bytes are equal. -/
theorem Utf8.encode_injective {text other : List Char} (h : encode text = encode other) :
    text = other := by
  have read := strict?_encode text
  rw [h, strict?_encode] at read
  exact (Option.some.inj read).symm

/-- The bytes of a text are those that it is stored as. -/
theorem Utf8.toByteArray_encode (text : String) :
    (encode text.toList).toByteArray = text.toByteArray := by
  rw [← String.utf8Encode_toList]
  rfl

end Text

/-! ## The header -/

namespace Broker

/-- A name and a password as they go into the header. -/
def joined (username password : String) : String := username ++ ":" ++ password

/-- **The header says what was joined.** -/
theorem basicAuthorization_eq_iff {username password username' password' : String} :
    basicAuthorization username password = basicAuthorization username' password'
      ↔ joined username password = joined username' password' := by
  refine ⟨fun same => ?_, fun same => ?_⟩
  · have digits := String.ofList_injective (String.append_right_inj _ |>.mp same)
    have bytes := congrArg Text.fromBase64? digits
    rw [Text.fromBase64?_base64, Text.fromBase64?_base64] at bytes
    exact String.toList_injective (Text.Utf8.encode_injective (Option.some.inj bytes))
  · unfold joined at same
    unfold basicAuthorization
    rw [same]

/-- **A name without a colon** can be told from the password behind it. -/
theorem joined_eq_iff {username password username' password' : String}
    (plain : ':' ∉ username.toList) (plain' : ':' ∉ username'.toList) :
    joined username password = joined username' password'
      ↔ username = username' ∧ password = password' := by
  have cut {name : String} (plain : ':' ∉ name.toList) (word : String) :
      Text.cutAtFirst ':' (joined name word).toList = (name.toList, word.toList) := by
    unfold joined
    rw [String.toList_append, String.toList_append, List.append_assoc]
    exact Text.cutAtFirst_append plain word.toList
  refine ⟨fun same => ?_, fun ⟨name, word⟩ => by rw [name, word]⟩
  have parts := cut plain password
  rw [same, cut plain' password'] at parts
  obtain ⟨name, word⟩ := Prod.mk.inj parts
  exact ⟨(String.toList_injective name).symm, (String.toList_injective word).symm⟩

end Broker

/-! ## The gate -/

/-- **A request that arrives at a target**, with the method, the headers and the body that it was
built with. -/
def Http.Request.arriving (request : Http.Request) (target : String) : Mock.Request where
  method := request.method.name
  target := target
  headers := request.headers
  body := request.body

namespace Mock

/-- **A client is let in with the right name and the right password**, and with nothing else. -/
theorem Settings.admits_iff {settings : Settings} {broker : Broker}
    (plain : ':' ∉ broker.username.toList) (plain' : ':' ∉ settings.username.toList) :
    settings.Admits broker
      ↔ broker.username = settings.username ∧ broker.password = settings.password :=
  Broker.basicAuthorization_eq_iff.trans (Broker.joined_eq_iff plain plain')

-- With colons in the names, other credentials make the same header.
example : ({ username := "a:b", password := "c" } : Settings).Admits
    { url := "", username := "a", password := "b:c" } := by decide

/-- **Credentials are checked exactly.** Let the names of a client and of a broker have no colon.
Whatever operation the client asks for, wherever the request arrives: its header holds, in base
64, the bytes of the name, a colon and the password. The request passes the gate of the headers
if name and password are those of the broker, and only then. Otherwise it is answered 401, and
the store is left as it is. -/
theorem credentials_are_checked (settings : Settings) (broker : Broker)
    (plain : ':' ∉ broker.username.toList) (plain' : ':' ∉ settings.username.toList)
    (operation : Operation) (input : operation.Input) (target : String) :
    let arrival := (broker.request operation input).arriving target
    let known := broker.username = settings.username ∧ broker.password = settings.password
    (∃ digits bytes, arrival.header? "Authorization" = some ("Basic " ++ String.ofList digits) ∧
      Text.fromBase64? digits = some bytes ∧
      bytes.toByteArray = (broker.username ++ ":" ++ broker.password).toByteArray) ∧
    (checkHeaders settings arrival = none ↔ known) ∧
    (¬known → ∀ random store, ∃ response, serve settings random arrival store = (response, store) ∧
      response.status = 401) := by
  intro arrival known
  have checked := @checkHeaders_eq settings arrival broker (operation.body input).isSome rfl
  have admits : settings.Admits broker ↔ known := Settings.admits_iff plain plain'
  refine ⟨⟨_, _, @authorization_eq arrival broker (operation.body input).isSome rfl,
    Text.fromBase64?_base64 _, Text.Utf8.toByteArray_encode _⟩, ?_, ?_⟩
  · rw [checked, ← admits]
    by_cases h : settings.Admits broker
    · simp [h]
    · simp [h]
  · intro unknown random store
    rw [if_neg (mt admits.mp unknown)] at checked
    have refused : understand settings arrival = .error .badCredentials := by
      unfold understand
      rw [checked]
    exact ⟨_, serve_of_refused random store (name_ne_head _) refused, rfl⟩

/-- A name and a password beyond ASCII, with a colon in the password, are known where they belong.
Where an accent is missing they are not. -/
theorem credentials_are_checked_accents :
    let broker : Broker :=
      { url := "http://b", username := "jürgen", password := "a:é💥", apiVersion := "" }
    let arrival := (broker.request .getInstance "i").arriving "/v2/service_instances/i"
    ':' ∉ broker.username.toList ∧
      checkHeaders { username := "jürgen", password := "a:é💥" } arrival = none ∧
      ∀ random store, ∃ response,
        serve { username := "jürgen", password := "a:e💥" } random arrival store
          = (response, store) ∧ response.status = 401 := by
  intro broker arrival
  have plain : ':' ∉ broker.username.toList := by decide
  obtain ⟨-, passes, -⟩ := credentials_are_checked
    { username := "jürgen", password := "a:é💥" } broker plain plain .getInstance "i"
    "/v2/service_instances/i"
  obtain ⟨-, -, refused⟩ := credentials_are_checked
    { username := "jürgen", password := "a:e💥" } broker plain plain .getInstance "i"
    "/v2/service_instances/i"
  exact ⟨plain, passes.mpr ⟨rfl, rfl⟩, refused (by decide)⟩

end Mock

end ServiceBroker
