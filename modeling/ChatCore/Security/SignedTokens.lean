import Mathlib.Tactic.Lemma

namespace ChatCore.Security

structure Jwt (S P : Type) where
  issuer : String
  audience : String
  subject : S
  issuedAt : Int
  expirationTime : Int
  payload : P
  deriving DecidableEq, Repr

/-- `SignJWT.sign` with a key, and `jwtVerify` with a key, an audience, an issuer and the second. -/
structure Jose (T S P : Type) where
  sign : Jwt S P → String → T
  jwtVerify : T → String → String → String → Int → Option P

namespace Jose

variable {T S P : Type} (jose : Jose T S P)

/-- A signature is checked by making it again: another key will do if it makes the same token. -/
structure Recomputes : Prop where
  jwtVerify_sign : ∀ (jwt : Jwt S P) (key other : String) (now : Int) (payload : P),
    jose.jwtVerify (jose.sign jwt key) other jwt.audience jwt.issuer now = some payload ↔
      (jose.sign jwt other = jose.sign jwt key ∧ now < jwt.expirationTime) ∧ jwt.payload = payload

def verifyWith (keys : List String) (audience issuer : String) (now : Int) (token : T) : Option P :=
  keys.findSome? fun key => jose.jwtVerify token key audience issuer now

variable {jose} {key : String} {keys : List String} {now : Int} {payload : P}

lemma Recomputes.payload_eq (h : jose.Recomputes) (jwt : Jwt S P)
    (hv : jose.verifyWith keys jwt.audience jwt.issuer now (jose.sign jwt key) = some payload) :
    jwt.payload = payload := by
  obtain ⟨other, -, hother⟩ := List.exists_of_findSome?_eq_some hv
  exact ((h.jwtVerify_sign ..).mp hother).2

lemma Recomputes.verifyWith_iff (h : jose.Recomputes) (jwt : Jwt S P) (key : String)
    (keys : List String) (now : Int) :
    jose.verifyWith keys jwt.audience jwt.issuer now (jose.sign jwt key) = some jwt.payload ↔
      (∃ other ∈ keys, jose.sign jwt other = jose.sign jwt key) ∧ now < jwt.expirationTime := by
  refine ⟨fun hv => ?_, fun ⟨⟨other, hmem, hsame⟩, hnow⟩ => ?_⟩
  · obtain ⟨other, hmem, hother⟩ := List.exists_of_findSome?_eq_some hv
    obtain ⟨⟨hsame, hnow⟩, -⟩ := (h.jwtVerify_sign ..).mp hother
    exact ⟨⟨other, hmem, hsame⟩, hnow⟩
  · have hother := (h.jwtVerify_sign jwt key other now jwt.payload).mpr ⟨⟨hsame, hnow⟩, rfl⟩
    have hsome : (jose.verifyWith keys jwt.audience jwt.issuer now (jose.sign jwt key)).isSome := by
      rw [verifyWith, List.findSome?_isSome_iff]
      exact ⟨other, hmem, Option.isSome_of_eq_some hother⟩
    obtain ⟨found, hfound⟩ := Option.isSome_iff_exists.mp hsome
    rw [hfound, h.payload_eq jwt hfound]

section Clear

def unpadded (key : String) : String := String.ofList (key.toList.reverse.dropWhile (· = '\x00')).reverse

def clear (write : String × Jwt S P → T) (parse : T → Option (String × Jwt S P)) : Jose T S P where
  sign jwt key := write (unpadded key, jwt)
  jwtVerify token key audience issuer now := (parse token).bind fun signed =>
    if (signed.1 = unpadded key ∧ now < signed.2.expirationTime) ∧ signed.2.audience = audience ∧
      signed.2.issuer = issuer then some signed.2.payload else none

lemma clear_recomputes {write : String × Jwt S P → T} {parse : T → Option (String × Jwt S P)}
    (hparse : ∀ signed, parse (write signed) = some signed) : (clear write parse).Recomputes where
  jwtVerify_sign jwt key other now payload := by
    have hsame : (clear write parse).sign jwt other = (clear write parse).sign jwt key ↔
        unpadded key = unpadded other := by
      refine ⟨fun h => ?_, fun h => congrArg (fun key => write (key, jwt)) h.symm⟩
      have hsigned := congrArg parse h
      change parse (write _) = parse (write _) at hsigned
      rw [hparse, hparse] at hsigned
      exact (congrArg Prod.fst (Option.some.inj hsigned)).symm
    change ((parse (write (unpadded key, jwt))).bind _ = _) ↔ _
    rw [hparse, hsame, Option.bind_some, Option.ite_none_right_eq_some, Option.some_inj]
    simp

end Clear

end Jose

end ChatCore.Security
