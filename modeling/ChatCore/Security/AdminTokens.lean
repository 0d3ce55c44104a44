import ChatCore.Connectors.Text
import ChatCore.Security.SignedTokens

namespace ChatCore.Security

open Connectors

inductive AdminAccessScope
  | read
  | internal
  deriving DecidableEq, Repr

structure AdminTokenSubject where
  adminId : Text
  tenantId : Text
  email : Option Text
  displayName : Option Text
  scopes : List AdminAccessScope
  deriving DecidableEq, Repr

structure AdminTokenClaims extends AdminTokenSubject where
  issuedAt : Int
  expiresAt : Int
  deriving DecidableEq, Repr

structure IssuedAdminToken (T : Type) where
  token : T
  claims : AdminTokenClaims
  deriving DecidableEq, Repr

/-- The payloads that the library finds are claims as this service signs them. -/
abbrev AdminJose (T : Type) := Jose T Text AdminTokenClaims

inductive AdminError
  | accessDenied
  | error (message : String)
  deriving DecidableEq, Repr

def isValidEmail (email : Text) : Bool := lengthBetween 3 254 email && email.contains 64

def isValidName (displayName : Text) : Bool := !(trim displayName).isEmpty && decide (displayName.length ≤ 160)

def isValidSubject (subject : AdminTokenSubject) : Bool :=
  isOpaqueId subject.adminId && isOpaqueId subject.tenantId && subject.email.all isValidEmail &&
    subject.displayName.all isValidName && !subject.scopes.isEmpty && decide subject.scopes.Nodup

structure AdminTokenService where
  secret : String
  previousSecrets : List String
  ttlSeconds : ℕ
  long : ∀ s ∈ secret :: previousSecrets, 32 ≤ s.utf8ByteSize
  bounded : 60 ≤ ttlSeconds ∧ ttlSeconds ≤ 86400

namespace AdminTokenService

variable {T : Type} (jose : AdminJose T) (service : AdminTokenService)

def tokenIssuer : String := "formation-chat-core"

def tokenAudience : String := "formation-chat-core-admin"

def keys : List String := service.secret :: service.previousSecrets

def claimsOf (subject : AdminTokenSubject) (now : Int) : AdminTokenClaims :=
  { subject with issuedAt := now / 1000 * 1000, expiresAt := (now / 1000 + service.ttlSeconds) * 1000 }

def jwt (claims : AdminTokenClaims) : Jwt Text AdminTokenClaims where
  issuer := tokenIssuer
  audience := tokenAudience
  subject := claims.adminId
  issuedAt := claims.issuedAt / 1000
  expirationTime := claims.expiresAt / 1000
  payload := claims

def issue (subject : AdminTokenSubject) (now : Int) : Except AdminError (IssuedAdminToken T) :=
  if isValidSubject subject then
    let claims := service.claimsOf subject now
    .ok ⟨jose.sign (jwt claims) service.secret, claims⟩
  else .error (.error "Invalid admin token subject.")

def verify (token : T) (now : Int) : Except AdminError AdminTokenClaims :=
  match jose.verifyWith service.keys tokenAudience tokenIssuer (now / 1000) token with
  | none => .error (.error "Invalid admin token.")
  | some claims =>
      if isValidSubject claims.toAdminTokenSubject then .ok claims else .error (.error "Invalid admin token.")

end AdminTokenService

/-- A property of the sign-on's answer; `null` counts as absent. -/
inductive Field
  | absent
  | text (text : Text)
  | other
  deriving DecidableEq, Repr

structure ApiUser where
  emails : List Field
  email : Field
  primaryEmail : Field
  firstName : Field
  lastName : Field
  deriving DecidableEq, Repr

inductive SsoResponse
  | rejected (message : String)
  | notOk
  | payload (user : Option ApiUser)
  deriving DecidableEq, Repr

/-- What the service takes from the platform: the lower case of a text, and its SHA-256 digest in base64url. -/
structure AdminPlatform where
  toLowerCase : Text → Text
  digest : Text → Text

def Field.stringValue : Field → Option Text
  | .text value => if trim value = [] then none else some (trim value)
  | _ => none

def ApiUser.fallbackEmail (user : ApiUser) :
    Field := if user.email = .absent then user.primaryEmail else user.email

def ApiUser.signInEmail (platform : AdminPlatform) (user : ApiUser) : Option Text :=
  (((user.emails ++ [user.fallbackEmail]).findSome? Field.stringValue).map platform.toLowerCase).filter
    fun email =>
    !email.isEmpty

def ApiUser.displayName (user : ApiUser) (email : Text) : Text :=
  match user.firstName.stringValue, user.lastName.stringValue with
  | some first, some last => first ++ [32] ++ last
  | some name, none | none, some name => name
  | none, none => email

structure AdminSsoConfig where
  tenantId : Text
  allowedAdminEmails : List Text
  deriving DecidableEq, Repr

structure AdminAuthService where
  config : AdminSsoConfig
  tokens : AdminTokenService

structure AdminSession (T : Type) where
  issued : IssuedAdminToken T
  email : Text
  displayName : Text
  deriving DecidableEq, Repr

namespace AdminAuthService

variable {T : Type} (jose : AdminJose T) (platform : AdminPlatform) (service : AdminAuthService)

def exchange (response : SsoResponse) (now : Int) : Except AdminError (AdminSession T) :=
  match response with
  | .rejected message => .error (.error message)
  | .notOk => .error (.error "SSO exchange failed.")
  | .payload none => .error .accessDenied
  | .payload (some user) => match user.signInEmail platform with
    | none => .error .accessDenied
    | some email =>
        if email ∈ service.config.allowedAdminEmails then
          let displayName := user.displayName email
          let adminId := text "sso-" ++ platform.digest email
          (service.tokens.issue jose
            ⟨adminId, service.config.tenantId, some email, some displayName, [.read, .internal]⟩ now).map
              fun issued =>
              ⟨issued, email, displayName⟩
        else .error .accessDenied

def renew (token : T) (now : Int) : Except AdminError (IssuedAdminToken T) :=
  match service.tokens.verify jose token now with
  | .error e => .error e
  | .ok claims =>
    service.tokens.issue jose ⟨claims.adminId, claims.tenantId, claims.email.filter fun s => !s.isEmpty,
      claims.displayName.filter fun s => !s.isEmpty, claims.scopes⟩ now

/-- A call at a time, or a restart with another configuration. -/
inductive Call (T : Type)
  | exchange (response : SsoResponse)
  | renew (token : T)
  | restart (service : AdminAuthService)

def serve (now : Int) : Call T → AdminAuthService × Option (IssuedAdminToken T)
  | .exchange response =>
    (service, ((service.exchange jose platform response now).map AdminSession.issued).toOption)
  | .renew token => (service, (service.renew jose token now).toOption)
  | .restart next => (next, none)

def issues : AdminAuthService → List (Int × Call T) → List (AdminSsoConfig × IssuedAdminToken T)
  | _, [] => []
  | service, (now, call) :: run =>
      (serve jose platform service now call).2.toList.map (fun issued => (service.config, issued)) ++
        issues (serve jose platform service now call).1 run

def renewed (now : Int) : Call T → List AdminTokenClaims
  | .renew token => (service.tokens.verify jose token now).toOption.toList
  | _ => []

def renewals : AdminAuthService → List (Int × Call T) → List (AdminSsoConfig × AdminTokenClaims)
  | _, [] => []
  | service, (now, call) :: run =>
      (renewed jose service now call).map (fun claims => (service.config, claims)) ++
        renewals (serve jose platform service now call).1 run

def InForce (config : AdminSsoConfig) (claims : AdminTokenClaims) : Prop :=
  (∃ email, claims.email = some email ∧ email ∈ config.allowedAdminEmails) ∧ claims.tenantId = config.tenantId

end AdminAuthService

section Claims

variable {T : Type} {jose : AdminJose T} {tokens : AdminTokenService} {subject : AdminTokenSubject} {token : T}
  {issued : IssuedAdminToken T} {now : Int} {claims : AdminTokenClaims}

lemma issue_ok (h : tokens.issue jose subject now = .ok issued) :
    isValidSubject subject = true ∧ issued.claims = tokens.claimsOf subject now ∧
      issued.token = jose.sign (AdminTokenService.jwt issued.claims) tokens.secret := by
  rw [AdminTokenService.issue] at h
  split at h
  · rename_i hvalid
    cases h
    exact ⟨hvalid, rfl, rfl⟩
  · cases h

lemma verify_ok (h : tokens.verify jose token now = .ok claims) :
    jose.verifyWith tokens.keys AdminTokenService.tokenAudience AdminTokenService.tokenIssuer (now / 1000) token =
      some claims ∧ isValidSubject claims.toAdminTokenSubject = true := by
  rw [AdminTokenService.verify] at h
  split at h
  · cases h
  · rename_i found hfound
    split at h
    · rename_i hvalid
      cases h
      exact ⟨hfound, hvalid⟩
    · cases h

lemma filter_valid {valid : Text → Bool} {value : Option Text} (hnil : valid [] = false)
    (h : value.all valid = true) :
    value.filter (fun s => !s.isEmpty) = value := by
  cases value with
  | none => rfl
  | some s =>
    cases s with
    | nil => exact absurd (h.symm.trans hnil) (by decide)
    | cons u us => rfl

end Claims

namespace AdminAuthService

variable {T : Type} {jose : AdminJose T} {platform : AdminPlatform} {service : AdminAuthService}
  {response : SsoResponse} {now : Int} {session : AdminSession T} {presented : T} {claims : AdminTokenClaims}
  {run : List (Int × Call T)}

lemma exchange_issued (h : service.exchange jose platform response now = .ok session) :
    ∃ subject : AdminTokenSubject, service.tokens.issue jose subject now = .ok session.issued ∧
      (∃ email ∈ service.config.allowedAdminEmails, subject.email = some email) ∧
      subject.tenantId = service.config.tenantId := by
  unfold exchange at h
  split at h
  · cases h
  · cases h
  · cases h
  · split at h
    · cases h
    · split at h
      · rename_i user email hemail hin
        dsimp only [Except.map] at h
        split at h
        · cases h
        · rename_i hissue
          cases h
          exact ⟨_, hissue, ⟨email, hin, rfl⟩, rfl⟩
      · cases h

lemma exchange_inForce (h : service.exchange jose platform response now = .ok session) :
    InForce service.config session.issued.claims := by
  obtain ⟨subject, hissue, ⟨email, hin, hemail⟩, htenant⟩ := exchange_issued h
  have hsubject := congrArg AdminTokenClaims.toAdminTokenSubject (issue_ok hissue).2.1
  exact ⟨⟨email, (congrArg AdminTokenSubject.email hsubject).trans hemail, hin⟩,
    (congrArg AdminTokenSubject.tenantId hsubject).trans htenant⟩

lemma renew_issued {issued : IssuedAdminToken T} (h : service.renew jose presented now = .ok issued) :
    ∃ subject, service.tokens.issue jose subject now = .ok issued := by
  rw [renew] at h
  split at h
  · cases h
  · exact ⟨_, h⟩

lemma renew_verified (h : service.tokens.verify jose presented now = .ok claims) :
    ∃ issued, service.renew jose presented now = .ok issued ∧
      issued.claims.toAdminTokenSubject = claims.toAdminTokenSubject := by
  obtain ⟨-, hvalid⟩ := verify_ok h
  have hall := hvalid
  simp only [isValidSubject, Bool.and_eq_true] at hall
  have hemail := filter_valid (by decide) hall.1.1.1.2
  have hname := filter_valid (by decide) hall.1.1.2
  have hrenew : service.renew jose presented now = service.tokens.issue jose claims.toAdminTokenSubject now := by
    simp only [renew, h, hemail, hname]
  rw [hrenew, AdminTokenService.issue, if_pos hvalid]
  exact ⟨_, rfl, rfl⟩

lemma renew_refused {e : AdminError} (h : service.tokens.verify jose presented now = .error e) :
    service.renew jose presented now = .error e := by
  rw [renew, h]

lemma inForce_congr {config : AdminSsoConfig} {other : AdminTokenClaims}
    (h : other.toAdminTokenSubject = claims.toAdminTokenSubject) : InForce config other ↔
    InForce config claims := by
  rw [InForce, InForce, h]

lemma serve_inForce_iff (call : Call T) :
    (∀ issued ∈ (serve jose platform service now call).2, InForce service.config issued.claims) ↔
      ∀ claims ∈ renewed jose service now call, InForce service.config claims := by
  cases call with
  | exchange response =>
    refine iff_of_true (fun issued h => ?_) (fun _ h => absurd h List.not_mem_nil)
    change issued ∈ ((service.exchange jose platform response now).map AdminSession.issued).toOption at h
    cases hs : service.exchange jose platform response now with
    | error e => rw [hs] at h; cases h
    | ok session =>
      rw [hs] at h
      cases h
      exact exchange_inForce hs
  | renew presented =>
    change (∀ issued ∈ (service.renew jose presented now).toOption, _) ↔
      ∀ claims ∈ (service.tokens.verify jose presented now).toOption.toList, _
    cases hv : service.tokens.verify jose presented now with
    | error e =>
      rw [renew_refused hv]
      exact iff_of_true (fun _ h => nomatch h) (fun _ h => absurd h List.not_mem_nil)
    | ok claims =>
      obtain ⟨issued, hissued, hclaims⟩ := renew_verified hv
      rw [hissued]
      simpa [Except.toOption] using inForce_congr hclaims
  | restart next => exact iff_of_true (fun _ h => nomatch h) (fun _ h => absurd h List.not_mem_nil)

/-- Every token of a run is in force when it is issued just if every token that is renewed is in force then. -/
theorem issued_inForce_iff {T : Type} (jose : AdminJose T) (platform : AdminPlatform) (service : AdminAuthService)
    (run : List (Int × Call T)) :
    (∀ issue ∈ issues jose platform service run, InForce issue.1 issue.2.claims) ↔
      ∀ renewal ∈ renewals jose platform service run, InForce renewal.1 renewal.2 := by
  induction run generalizing service with
  | nil => exact iff_of_true (fun _ h => absurd h List.not_mem_nil) (fun _ h => absurd h List.not_mem_nil)
  | cons first run ih =>
    obtain ⟨now, call⟩ := first
    rw [issues, renewals, List.forall_mem_append, List.forall_mem_append, ih, List.forall_mem_map,
      List.forall_mem_map]
    refine and_congr_left' ?_
    simpa using serve_inForce_iff call

section Kept

def Keeps (before after : AdminSsoConfig) : Prop :=
  after.tenantId = before.tenantId ∧ ∀ email ∈ before.allowedAdminEmails, email ∈ after.allowedAdminEmails

lemma InForce.kept {before after : AdminSsoConfig} (h : InForce before claims) (hk : Keeps before after) :
    InForce after claims := by
  obtain ⟨⟨email, hemail, hin⟩, htenant⟩ := h
  exact ⟨⟨email, hemail, hk.2 email hin⟩, htenant.trans hk.1.symm⟩

def OwnCall (jose : AdminJose T) (known : List (IssuedAdminToken T)) (service : AdminAuthService) (now : Int) :
    Call T → Prop
  | .exchange _ => True
  | .renew token => (∃ claims, service.tokens.verify jose token now = .ok claims) → ∃ issued ∈ known,
      issued.token = token
  | .restart next => Keeps service.config next.config

def OwnRun (jose : AdminJose T) (platform : AdminPlatform) :
    List (IssuedAdminToken T) → AdminAuthService → List (Int × Call T) → Prop
  | _, _, [] => True
  | known, service, (now, call) :: run => OwnCall jose known service now call ∧
      OwnRun jose platform (known ++ (serve jose platform service now call).2.toList)
        (serve jose platform service now call).1 run

def Genuine (jose : AdminJose T) (issued : IssuedAdminToken T) : Prop :=
  ∃ secret, issued.token = jose.sign (AdminTokenService.jwt issued.claims) secret

lemma Genuine.of_issue {subject : AdminTokenSubject} {issued : IssuedAdminToken T}
    (h : service.tokens.issue jose subject now = .ok issued) : Genuine jose issued :=
  ⟨service.tokens.secret, (issue_ok h).2.2⟩

lemma serve_genuine {call : Call T} {issued : IssuedAdminToken T}
    (h : issued ∈ (serve jose platform service now call).2) : Genuine jose issued := by
  cases call with
  | exchange response =>
    change issued ∈ ((service.exchange jose platform response now).map AdminSession.issued).toOption at h
    cases hs : service.exchange jose platform response now with
    | error e => rw [hs] at h; cases h
    | ok session =>
      rw [hs] at h
      cases h
      obtain ⟨subject, hsubject, -⟩ := exchange_issued hs
      exact Genuine.of_issue hsubject
  | renew presented =>
    change issued ∈ (service.renew jose presented now).toOption at h
    cases hr : service.renew jose presented now with
    | error e => rw [hr] at h; cases h
    | ok found =>
      rw [hr] at h
      cases h
      obtain ⟨subject, hsubject⟩ := renew_issued hr
      exact Genuine.of_issue hsubject
  | restart next => cases h

lemma Genuine.verified (hjose : jose.Recomputes) {issued : IssuedAdminToken T} (hissued : Genuine jose issued)
    (h : service.tokens.verify jose issued.token now = .ok claims) : issued.claims = claims := by
  obtain ⟨secret, hsecret⟩ := hissued
  have hverified := (verify_ok h).1
  rw [hsecret] at hverified
  exact hjose.payload_eq (AdminTokenService.jwt issued.claims) hverified

lemma renewed_inForce (hjose : jose.Recomputes) {known : List (IssuedAdminToken T)} {call : Call T}
    (hknown : ∀ issued ∈ known, Genuine jose issued ∧ InForce service.config issued.claims)
    (h : OwnCall jose known service now call) :
    ∀ claims ∈ renewed jose service now call, InForce service.config claims := by
  cases call with
  | renew presented =>
    intro claims hclaims
    change claims ∈ (service.tokens.verify jose presented now).toOption.toList at hclaims
    cases hv : service.tokens.verify jose presented now with
    | error e =>
      rw [hv] at hclaims
      exact absurd hclaims List.not_mem_nil
    | ok found =>
      rw [hv] at hclaims
      obtain ⟨issued, hmem, rfl⟩ := h ⟨found, hv⟩
      rw [List.mem_singleton.mp hclaims, ← (hknown issued hmem).1.verified hjose hv]
      exact (hknown issued hmem).2
  | exchange response => exact fun _ h => absurd h List.not_mem_nil
  | restart next => exact fun _ h => absurd h List.not_mem_nil

lemma serve_keeps {known : List (IssuedAdminToken T)} {call : Call T} (h : OwnCall jose known service now call) :
    Keeps service.config (serve jose platform service now call).1.config := by
  cases call with
  | exchange response => exact ⟨rfl, fun _ h => h⟩
  | renew presented => exact ⟨rfl, fun _ h => h⟩
  | restart next => exact h

theorem kept_sessions_in_force (hjose : jose.Recomputes) {known : List (IssuedAdminToken T)}
    (hknown : ∀ issued ∈ known, Genuine jose issued ∧ InForce service.config issued.claims)
    (h : OwnRun jose platform known service run) :
    ∀ issue ∈ issues jose platform service run, InForce issue.1 issue.2.claims := by
  induction run generalizing service known with
  | nil => exact fun _ h => absurd h List.not_mem_nil
  | cons first run ih =>
    obtain ⟨now, call⟩ := first
    obtain ⟨hcall, hrun⟩ := h
    have hissued : ∀ issued ∈ (serve jose platform service now call).2, InForce service.config issued.claims :=
      (serve_inForce_iff call).mpr (renewed_inForce hjose hknown hcall)
    have hkeeps : Keeps service.config (serve jose platform service now call).1.config := serve_keeps hcall
    rw [issues, List.forall_mem_append, List.forall_mem_map]
    refine ⟨fun issued hi => hissued issued (Option.mem_toList.mp hi), ih (fun issued hi => ?_) hrun⟩
    rcases List.mem_append.mp hi with hi | hi
    · exact ⟨(hknown issued hi).1, (hknown issued hi).2.kept hkeeps⟩
    · rw [Option.mem_toList] at hi
      exact ⟨serve_genuine hi, (hissued issued hi).kept hkeeps⟩

end Kept

section Removed

def ascii : AdminPlatform where
  toLowerCase := List.map fun u => if 65 ≤ u && u ≤ 90 then u + 32 else u
  digest _ := text "47DEQpj8HBSa-_TImW-5JCeuQeRkm5NMpJWZG3hSuFU"

def adminTokens : AdminTokenService where
  secret := "admin-secret-0123456789abcdef0123456789abcdef"
  previousSecrets := []
  ttlSeconds := 3600
  long := by decide
  bounded := by decide

def allowing (emails : List Text) : AdminAuthService := ⟨⟨text "tenant", emails⟩, adminTokens⟩

def adaAnswer : SsoResponse :=
  .payload (some ⟨[.text (text "ADA@example.com")], .absent, .absent, .text (text "Ada"), .absent⟩)

def shown : AdminJose (String × Jwt Text AdminTokenClaims) := Jose.clear id some

def adaToken (issuedAtSeconds : Int) : IssuedAdminToken (String × Jwt Text AdminTokenClaims) :=
  let claims : AdminTokenClaims := ⟨⟨text "sso-47DEQpj8HBSa-_TImW-5JCeuQeRkm5NMpJWZG3hSuFU", text "tenant",
    some (text "ada@example.com"), some (text "Ada"), [.read, .internal]⟩,
    issuedAtSeconds * 1000, (issuedAtSeconds + 3600) * 1000⟩
  ⟨shown.sign (AdminTokenService.jwt claims) adminTokens.secret, claims⟩

def removal : List (Int × Call (String × Jwt Text AdminTokenClaims)) := [
  (0, .exchange adaAnswer),
  (1000, .restart (allowing [text "grace@example.com"])),
  (1800000, .renew (adaToken 0).token)]

theorem removed_admin_renews :
    issues shown ascii (allowing [text "ada@example.com"]) removal =
        [(⟨text "tenant", [text "ada@example.com"]⟩, adaToken 0),
          (⟨text "tenant", [text "grace@example.com"]⟩, adaToken 1800)] ∧
      ¬ ∀ issue ∈ issues shown ascii (allowing [text "ada@example.com"]) removal,
      InForce issue.1 issue.2.claims := by
  have h : issues shown ascii (allowing [text "ada@example.com"]) removal =
      [(⟨text "tenant", [text "ada@example.com"]⟩, adaToken 0),
        (⟨text "tenant", [text "grace@example.com"]⟩, adaToken 1800)] := by decide +kernel
  refine ⟨h, fun hall => ?_⟩
  rw [h] at hall
  obtain ⟨⟨email, hemail, hin⟩, -⟩ := hall _ (List.mem_cons_of_mem _ (List.mem_singleton_self _))
  rw [← Option.some.inj hemail] at hin
  exact absurd hin (by decide +kernel)

end Removed

end AdminAuthService

end ChatCore.Security
