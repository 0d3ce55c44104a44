import ChatCore.Codecs.Dates
import ChatCore.Codecs.JsonText
import ChatCore.Security.SignedTokens
import ChatCore.Services.Bootstraps

namespace ChatCore.Services

open Protocol Relational Database SessionService Security

/-- A member of a token's payload; of a list the items that are no texts do not count. -/
inductive Claim
  | absent
  | text (value : String)
  | texts (items : List (Option String))
  | other
  deriving DecidableEq, Repr

structure Payload where
  tenantId : Claim
  siteId : Claim
  agentRef : Claim
  principalId : Claim
  sessionId : Claim
  scopes : Claim
  issuedAt : Claim
  expiresAt : Claim
  deriving DecidableEq, Repr

structure VerifiedClaims where
  tenantId : Id
  siteId : Id
  agentRef : Id
  principalId : Id
  sessionId : Id
  scopes : List (Option String)
  issuedAt : Claim
  expiresAt : Claim
  deriving DecidableEq, Repr

def VerifiedClaims.scope (claims : VerifiedClaims) : Scope := ⟨claims.tenantId, claims.siteId, claims.principalId⟩

structure SessionTokenService where
  secret : String
  previousSecrets : List String
  ttlSeconds : ℕ
  long : ∀ s ∈ secret :: previousSecrets, 32 ≤ s.utf8ByteSize

def scopeName : AccessScope → String
  | .conversationsRead => "conversations:read"
  | .conversationsWrite => "conversations:write"
  | .eventsRead => "events:read"
  | .inputsWrite => "inputs:write"

def Claim.textValue : Claim → Option String
  | .text value => some value
  | _ => none

def Claim.items : Claim → Option (List (Option String))
  | .texts items => some items
  | _ => none

namespace SessionTokenService

variable (jose : Jose String String Payload) (service : SessionTokenService)

def tokenIssuer : String := "formation-chat-core"

def tokenAudience : String := "formation-chat-core-public"

def keys : List String := service.secret :: service.previousSecrets

def payloadOf (claims : SessionTokenClaims) : Payload where
  tenantId := .text claims.tenantId
  siteId := .text claims.siteId
  agentRef := .text claims.agentRef
  principalId := .text claims.principalId
  sessionId := .text claims.sessionId
  scopes := .texts (claims.scopes.map fun scope => some (scopeName scope))
  issuedAt := .text (Codecs.toISOString claims.issuedAt)
  expiresAt := .text (Codecs.toISOString claims.expiresAt)

def jwt (claims : SessionTokenClaims) : Jwt String Payload where
  issuer := tokenIssuer
  audience := tokenAudience
  subject := claims.principalId
  issuedAt := claims.issuedAt / 1000
  expirationTime := claims.expiresAt / 1000
  payload := payloadOf claims

def issuer (normalizeOrigin : String → Option String) : Issuer where
  ttlSeconds := service.ttlSeconds
  normalizeOrigin := normalizeOrigin
  sign claims := jose.sign (jwt claims) service.secret

def readClaims (payload : Payload) : Option VerifiedClaims := do
  let tenantId ← payload.tenantId.textValue
  let siteId ← payload.siteId.textValue
  let agentRef ← payload.agentRef.textValue
  let principalId ← payload.principalId.textValue
  let sessionId ← payload.sessionId.textValue
  let scopes ← payload.scopes.items
  return ⟨tenantId, siteId, agentRef, principalId, sessionId, scopes, payload.issuedAt, payload.expiresAt⟩

def verify (token : String) (now : Timestamp) (expected : Option (Id × Id)) : Option VerifiedClaims :=
  (jose.verifyWith service.keys tokenAudience tokenIssuer (now / 1000000) token).bind fun payload =>
    (readClaims payload).filter fun claims => expected.all fun x => decide ((claims.tenantId, claims.siteId) = x)

end SessionTokenService

def unauthorized : ServerError := .api "UNAUTHORIZED" 401 "Authentication is required."

def forbidden : ServerError := .api "FORBIDDEN" 403 "The token lacks the required scope."

def bearerToken (authorization : String) : Option String :=
  if "Bearer ".toList.isPrefixOf authorization.toList
    then some (String.ofList (authorization.toList.drop 7)) else none

def authenticate (jose : Jose String String Payload) (tokens : SessionTokenService) (authorization : Option String)
    (scope : AccessScope) (now : Timestamp) : Except ServerError VerifiedClaims :=
  match (authorization.bind bearerToken).bind fun token => tokens.verify jose token now none with
  | none => .error unauthorized
  | some claims => if some (scopeName scope) ∈ claims.scopes then .ok claims else .error forbidden

section Tokens

open SessionTokenService

variable {jose : Jose String String Payload} {service verifier : SessionTokenService} {claims : SessionTokenClaims}
  {key : String}

def taken (claims : SessionTokenClaims) : VerifiedClaims where
  tenantId := claims.tenantId
  siteId := claims.siteId
  agentRef := claims.agentRef
  principalId := claims.principalId
  sessionId := claims.sessionId
  scopes := claims.scopes.map fun scope => some (scopeName scope)
  issuedAt := .text (Codecs.toISOString claims.issuedAt)
  expiresAt := .text (Codecs.toISOString claims.expiresAt)

lemma verify_eq_some_iff (hjose : jose.Recomputes) (now : Timestamp) (verified : VerifiedClaims) :
    verifier.verify jose (jose.sign (jwt claims) key) now none = some verified ↔
      ((∃ other ∈ verifier.keys, jose.sign (jwt claims) other = jose.sign (jwt claims) key) ∧
        now / 1000000 < claims.expiresAt / 1000) ∧ taken claims = verified := by
  have hverify := hjose.verifyWith_iff (jwt claims) key verifier.keys (now / 1000000)
  change jose.verifyWith verifier.keys tokenAudience tokenIssuer (now / 1000000) _ = _ ↔ _ at hverify
  rw [verify, Option.bind_eq_some_iff]
  constructor
  · rintro ⟨payload, hpayload, hread⟩
    obtain rfl : payloadOf claims = payload := hjose.payload_eq (jwt claims) hpayload
    exact ⟨hverify.mp hpayload, Option.some.inj hread⟩
  · rintro ⟨hcondition, rfl⟩
    exact ⟨payloadOf claims, hverify.mpr hcondition, rfl⟩

lemma bearerToken_bearer (token : String) : bearerToken ("Bearer " ++ token) = some token := by
  have htext : ("Bearer " ++ token).toList = "Bearer ".toList ++ token.toList := String.toList_append
  have hhead : "Bearer ".toList.isPrefixOf ("Bearer ".toList ++ token.toList) = true :=
    List.isPrefixOf_iff_prefix.mpr (List.prefix_append _ _)
  have hrest : ("Bearer ".toList ++ token.toList).drop 7 = token.toList := List.drop_left' rfl
  rw [bearerToken, htext, hhead, if_pos rfl, hrest, String.ofList_toList]

lemma scope_issued (issuer : Issuer) (tenantId siteId agentRef principalId sessionId : Id) (now : Timestamp)
    (scope : AccessScope) : scope ∈ (issue issuer tenantId siteId agentRef principalId sessionId now).scopes := by
  cases scope <;> simp [issue]

lemma authenticate_eq_ok_iff (verifier : SessionTokenService) (claims : SessionTokenClaims) (key : String)
    (hjose : jose.Recomputes) (hscopes : ∀ scope, scope ∈ claims.scopes) (scope : AccessScope) (now : Timestamp)
    (verified : VerifiedClaims) :
    authenticate jose verifier (some ("Bearer " ++ jose.sign (jwt claims) key)) scope now = .ok verified ↔
      ((∃ other ∈ verifier.keys, jose.sign (jwt claims) other = jose.sign (jwt claims) key) ∧
        now / 1000000 < claims.expiresAt / 1000) ∧ taken claims = verified := by
  rw [← verify_eq_some_iff hjose, authenticate, Option.bind_some, bearerToken_bearer, Option.bind_some]
  cases hv : verifier.verify jose (jose.sign (jwt claims) key) now none with
  | none => simp
  | some found =>
    obtain ⟨-, rfl⟩ := (verify_eq_some_iff hjose now found).mp hv
    have hscope : some (scopeName scope) ∈ (taken claims).scopes := List.mem_map.mpr ⟨scope, hscopes scope, rfl⟩
    simp [hscope]

end Tokens

namespace Bootstraps

variable {platform : Platform} {jose : Jose String String Payload} {service : SessionTokenService}
  {normalizeOrigin : String → Option String} {origin : Tables} {s : VisitStore} {site site' : Site} {v u : Visit}
  {agentRef : Id} {identity identity' : Id × Id × Id}

def issued (issuer : Issuer) (r : SessionBootstrapResponse) (now : Timestamp) : SessionTokenClaims :=
  issue issuer r.tenantId r.siteId r.agentRef r.principalId r.sessionId now

lemma authenticate_respond (hjose : jose.Recomputes) {r : SessionBootstrapResponse}
    (hr : r = respond (service.issuer jose normalizeOrigin) site agentRef v identity)
    (verifier : SessionTokenService)
    (scope : AccessScope) (now : Timestamp) (verified : VerifiedClaims) :
    authenticate jose verifier (some ("Bearer " ++ r.accessToken)) scope now = .ok verified ↔
      ((∃ key ∈ verifier.keys,
          jose.sign (SessionTokenService.jwt (issued (service.issuer jose normalizeOrigin) r v.now)) key =
          r.accessToken) ∧
        now / 1000000 < v.now / 1000000 + service.ttlSeconds) ∧
      taken (issued (service.issuer jose normalizeOrigin) r v.now) = verified := by
  have hexpires : (v.now / 1000000 + service.ttlSeconds) * 1000 / 1000 = v.now / 1000000 + service.ttlSeconds :=
    Int.mul_ediv_cancel _ (by decide)
  have hauthenticate := authenticate_eq_ok_iff verifier
    (issued (service.issuer jose normalizeOrigin) r v.now) service.secret hjose
    (fun scope => scope_issued _ _ _ _ _ _ _ scope) scope now verified
  rw [← hexpires]
  subst hr
  exact hauthenticate

lemma principal_iff (hunique : Unique s.1) (hid : Identified platform site v identity s.1)
    (hid' : Identified platform site' u identity' s.1) :
    (site.tenantId, site.siteId, identity.1) = (site'.tenantId, site'.siteId, identity'.1) ↔
      (site.tenantId, site.siteId, identity.2.2) = (site'.tenantId, site'.siteId, identity'.2.2) := by
  obtain ⟨p, hp, hpi, hpb⟩ := hid.principal
  obtain ⟨p', hp', hpi', hpb'⟩ := hid'.principal
  rw [ofBrowser_iff] at hpb hpb'
  simp only [Prod.mk.injEq]
  refine ⟨fun ⟨htenant, hsite, he⟩ => ⟨htenant, hsite, ?_⟩, fun ⟨htenant, hsite, he⟩ => ⟨htenant, hsite, ?_⟩⟩
  · have hsame : p = p' := Table.key_injective hp hp' (hpi.trans (he.trans hpi'.symm))
    rw [← hpb.2.2, ← hpb'.2.2, hsame]
  · have hsame : p = p' := hunique.principals p hp p' hp' (hpb.1.trans (htenant.trans hpb'.1.symm))
      (hpb.2.1.trans (hsite.trans hpb'.2.1.symm)) (hpb.2.2.trans (he.trans hpb'.2.2.symm))
    rw [← hpi, ← hpi', hsame]

lemma session_eq (hunique : Unique s.1) (hid : Identified platform site v identity s.1)
    (hid' : Identified platform site' u identity' s.1) (htenant : site.tenantId = site'.tenantId)
    (hsite : site.siteId = site'.siteId) (he : identity.1 = identity'.1) : identity.2.1 = identity'.2.1 := by
  obtain ⟨b, hb, hbi, hbv⟩ := hid.session
  obtain ⟨b', hb', hbi', hbv'⟩ := hid'.session
  rw [ofVisitor_iff] at hbv hbv'
  have hsame : b = b' := hunique.sessions b hb b' hb' (hbv.1.trans (htenant.trans hbv'.1.symm))
    (hbv.2.1.trans (hsite.trans hbv'.2.1.symm)) (hbv.2.2.trans (he.trans hbv'.2.2.symm))
  rw [← hbi, ← hbi', hsame]

/-- A token that a bootstrap has handed out is good for every route for as long as it lasts and a key of the ring
makes it, and two of them are good for one principal just if they went to one browser of one site. -/
theorem bearers_identified (platform : Platform) (jose : Jose String String Payload) (hjose : jose.Recomputes)
    (service : SessionTokenService) (normalizeOrigin : String → Option String)
    (directory : Directory) (db : Tables)
    (hdb : Unique db) (moves : List (Move Visit)) (i j : ℕ) (v u : Visit) (r q : SessionBootstrapResponse) :
    let issuer := service.issuer jose normalizeOrigin
    let w := (World.initial db : VisitWorld).exec (body platform issuer directory) moves
    .finished i v (.ok r) ∈ w.history → .finished j u (.ok q) ∈ w.history →
    r.accessToken = jose.sign (SessionTokenService.jwt (issued issuer r v.now)) service.secret ∧
    (∀ verifier scope now, (∃ claims, authenticate jose verifier (some ("Bearer " ++ r.accessToken)) scope now =
        .ok claims) ↔
      (∃ key ∈ verifier.keys, jose.sign (SessionTokenService.jwt (issued issuer r v.now)) key = r.accessToken) ∧
        now / 1000000 < v.now / 1000000 + service.ttlSeconds) ∧
    ∀ verifier verifier' scope scope' now now' claims claims',
      authenticate jose verifier (some ("Bearer " ++ r.accessToken)) scope now = .ok claims →
      authenticate jose verifier' (some ("Bearer " ++ q.accessToken)) scope' now' = .ok claims' →
      claims.scope = ⟨r.tenantId, r.siteId, r.principalId⟩ ∧
      (claims.scope = claims'.scope ↔
        (r.tenantId, r.siteId, r.browserIdentity) = (q.tenantId, q.siteId, q.browserIdentity)) ∧
      (claims.scope = claims'.scope → claims.sessionId = claims'.sessionId) := by
  intro issuer w hr hq
  have hholds : (discipline platform issuer directory db).Holds (w.db, w.history) := (sound hdb moves).holds
  obtain ⟨site, agentRef, identity, hrespond, hid⟩ := identified_of_finished hholds hr
  obtain ⟨site', agentRef', identity', hrespond', hid'⟩ := identified_of_finished hholds hq
  refine ⟨?_, fun verifier scope now => ?_, fun verifier verifier' scope scope' now now' claims claims' h h' => ?_⟩
  · subst hrespond
    rfl
  · have hbearer := authenticate_respond hjose hrespond verifier scope now
    exact ⟨fun ⟨claims, h⟩ => ((hbearer claims).mp h).1, fun h => ⟨_, (hbearer _).mpr ⟨h, rfl⟩⟩⟩
  · obtain ⟨-, rfl⟩ := (authenticate_respond hjose hrespond verifier scope now claims).mp h
    obtain ⟨-, rfl⟩ := (authenticate_respond hjose hrespond' verifier' scope' now' claims').mp h'
    subst hrespond hrespond'
    have hiff := principal_iff hholds.inv hid hid'
    have hscope : (⟨site.tenantId, site.siteId, identity.1⟩ : Scope) =
      ⟨site'.tenantId, site'.siteId, identity'.1⟩ ↔
        (site.tenantId, site.siteId, identity.1) = (site'.tenantId, site'.siteId, identity'.1) := by
      rw [Scope.mk.injEq, Prod.mk.injEq, Prod.mk.injEq]
    refine ⟨rfl, hscope.trans hiff, fun hsame => ?_⟩
    have heq := hscope.mp hsame
    rw [Prod.mk.injEq, Prod.mk.injEq] at heq
    exact session_eq hholds.inv hid hid' heq.1 heq.2.1 heq.2.2

section Scenario

open Codecs

def claimItems : Claim → List JsonText.Item
  | .absent => [.null]
  | .text value => [.string value]
  | .texts items => .integer items.length :: items.map fun item => item.elim .null .string
  | .other => [.integer (-1)]

def itemText : JsonText.Item → Option String
  | .string value => some value
  | _ => none

def readClaim : List JsonText.Item → Option (Claim × List JsonText.Item)
  | .null :: rest => some (.absent, rest)
  | .string value :: rest => some (.text value, rest)
  | .integer (.ofNat n) :: rest => some (.texts ((rest.take n).map itemText), rest.drop n)
  | .integer (.negSucc _) :: rest => some (.other, rest)
  | [] => none

lemma readClaim_items (claim : Claim) (rest : List JsonText.Item) :
    readClaim (claimItems claim ++ rest) = some (claim, rest) := by
  cases claim with
  | absent => rfl
  | text value => rfl
  | other => rfl
  | texts items =>
    have hitem : ∀ item : Option String, itemText (item.elim .null .string) = item :=
      fun item => by cases item <;> rfl
    have hlength : (items.map fun item => item.elim JsonText.Item.null .string).length = items.length :=
      List.length_map _
    rw [claimItems, List.cons_append]
    change some (Claim.texts (List.map itemText (List.take items.length (_ ++ rest))),
      List.drop items.length (_ ++ rest)) = _
    rw [List.take_left' hlength, List.drop_left' hlength, List.map_map]
    simp [Function.comp_def, hitem]

abbrev Signed := String × Jwt String Payload

def jwtItems (signed : Signed) : List JsonText.Item :=
  [.string signed.1, .string signed.2.issuer, .string signed.2.audience, .string signed.2.subject,
    .integer signed.2.issuedAt, .integer signed.2.expirationTime] ++
    [signed.2.payload.tenantId, signed.2.payload.siteId, signed.2.payload.agentRef, signed.2.payload.principalId,
      signed.2.payload.sessionId, signed.2.payload.scopes, signed.2.payload.issuedAt,
      signed.2.payload.expiresAt].flatMap claimItems

def readJwt : List JsonText.Item → Option Signed
  | .string key :: .string issuer :: .string audience :: .string subject :: .integer issuedAt ::
      .integer expirationTime :: items => do
    let (tenantId, items) ← readClaim items
    let (siteId, items) ← readClaim items
    let (agentRef, items) ← readClaim items
    let (principalId, items) ← readClaim items
    let (sessionId, items) ← readClaim items
    let (scopes, items) ← readClaim items
    let (issuedAtText, items) ← readClaim items
    let (expiresAt, _) ← readClaim items
    return ⟨key, issuer, audience, subject, issuedAt, expirationTime,
      ⟨tenantId, siteId, agentRef, principalId, sessionId, scopes, issuedAtText, expiresAt⟩⟩
  | _ => none

lemma readJwt_items (signed : Signed) : readJwt (jwtItems signed) = some signed := by
  simp only [jwtItems, List.flatMap_cons, List.flatMap_nil, List.cons_append, List.nil_append, readJwt,
    readClaim_items, Option.bind_eq_bind, Option.bind_some]
  rfl

def writeJwt (signed : Signed) : String := (JsonText.Value.array (jwtItems signed)).text

def parseJwt (token : String) : Option Signed := match JsonText.read token with
  | some (.array items) => readJwt items
  | _ => none

lemma parseJwt_write (signed : Signed) : parseJwt (writeJwt signed) = some signed := by
  rw [parseJwt, writeJwt, JsonText.read_text]
  exact readJwt_items signed

def openly : Jose String String Payload := Jose.clear writeJwt parseJwt

lemma openly_recomputes : openly.Recomputes := Jose.clear_recomputes parseJwt_write

def newSecret : String := "session-secret-2-0123456789abcdef"

def oldSecret : String := "session-secret-1-0123456789abcdef"

lemma secrets_long : ∀ s ∈ [newSecret, oldSecret], 32 ≤ s.utf8ByteSize := by decide

lemma secret_long : ∀ s ∈ [oldSecret], 32 ≤ s.utf8ByteSize := by decide

def before : SessionTokenService := ⟨oldSecret, [], 900, secret_long⟩

def rotated : SessionTokenService := ⟨newSecret, [oldSecret], 900, secrets_long⟩

def answerOf : VisitRecord → Option (ℕ × Visit × Id × Id × Id)
  | .finished id v (.ok r) => some (id, v, r.tenantId, r.siteId, r.browserIdentity)
  | _ => none

lemma finished_of_answerOf {record : VisitRecord} {id : ℕ} {v : Visit} {visitor : Id × Id × Id}
    (h : answerOf record = some (id, v, visitor)) :
    ∃ r, record = .finished id v (.ok r) ∧ (r.tenantId, r.siteId, r.browserIdentity) = visitor := by
  unfold answerOf at h
  split at h
  · cases h
    exact ⟨_, rfl, rfl⟩
  · cases h

lemma finished_of_answers {history : List VisitRecord} {id : ℕ} {v : Visit} {visitor : Id × Id × Id}
    (h : (id, v, visitor) ∈ history.filterMap answerOf) :
    ∃ r, .finished id v (.ok r) ∈ history ∧ (r.tenantId, r.siteId, r.browserIdentity) = visitor := by
  obtain ⟨record, hrecord, hanswer⟩ := List.mem_filterMap.mp h
  obtain ⟨r, rfl, hvisitor⟩ := finished_of_answerOf hanswer
  exact ⟨r, hrecord, hvisitor⟩

def rotating : VisitWorld :=
  (World.initial (unused ∅ ∅ ∅)).exec (body plain (before.issuer openly some) shop) racing

lemma rotating_answers : rotating.history.filterMap answerOf =
    [(0, visiting "browser" "one" "p1" "s1", "tenant", "site", "browser"),
      (1, visiting "browser" "second" "p2" "s2", "tenant", "site", "browser")] := by
  decide +kernel

theorem rotation_keeps_bearers :
    ∃ r q, .finished 0 (visiting "browser" "one" "p1" "s1") (.ok r) ∈ rotating.history ∧
    .finished 1 (visiting "browser" "second" "p2" "s2") (.ok q) ∈ rotating.history ∧
    (¬ ∃ claims, authenticate openly rotated (some ("Bearer " ++ r.accessToken)) .eventsRead
      900000000 = .ok claims) ∧
    ∃ claims claims',
      authenticate openly rotated (some ("Bearer " ++ r.accessToken)) .eventsRead 899999999 = .ok claims ∧
      authenticate openly rotated (some ("Bearer " ++ q.accessToken)) .inputsWrite 899999999 = .ok claims' ∧
      claims.scope = claims'.scope ∧ claims.sessionId = claims'.sessionId := by
  obtain ⟨r, hr, hrv⟩ := @finished_of_answers rotating.history 0 (visiting "browser" "one" "p1" "s1")
    ("tenant", "site", "browser") (rotating_answers ▸ by decide +kernel)
  obtain ⟨q, hq, hqv⟩ := @finished_of_answers rotating.history 1 (visiting "browser" "second" "p2" "s2")
    ("tenant", "site", "browser") (rotating_answers ▸ by decide +kernel)
  obtain ⟨hmade, hlasts, hsame⟩ :=
    bearers_identified plain openly openly_recomputes before some shop (unused ∅ ∅ ∅) unique_unused racing 0 1 _ _
    r q hr hq
  obtain ⟨hmade', hlasts', -⟩ :=
    bearers_identified plain openly openly_recomputes before some shop (unused ∅ ∅ ∅) unique_unused racing 1 0 _ _
    q r hq hr
  obtain ⟨claims, hclaims⟩ :=
    (hlasts rotated .eventsRead 899999999).mpr ⟨⟨oldSecret, by decide, hmade.symm⟩, by decide⟩
  obtain ⟨claims', hclaims'⟩ := (hlasts' rotated .inputsWrite 899999999).mpr
    ⟨⟨oldSecret, by decide, hmade'.symm⟩, by decide⟩
  obtain ⟨-, hiff, hsession⟩ := hsame rotated rotated _ _ _ _ claims claims' hclaims hclaims'
  have hscope : claims.scope = claims'.scope := hiff.mpr (hrv.trans hqv.symm)
  exact ⟨r, q, hr, hq, fun h => absurd ((hlasts rotated .eventsRead 900000000).mp h).2 (by decide), claims,
    claims', hclaims, hclaims', hscope, hsession hscope⟩

end Scenario

end Bootstraps

end ChatCore.Services
