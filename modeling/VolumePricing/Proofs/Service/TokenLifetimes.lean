import VolumePricing.Proofs.Service.CostQueries
import VolumePricing.Proofs.Token.Reading

/-!
# How long tokens live

The second at which a token expires is worked out in several words: the lifetime is taken for a
number with a sign, it has to be a span that fits into a word when counted in milliseconds, and the
sum has to be on the calendar. A lifetime that is none of this ends the computation. Otherwise the
token names that second, and whoever carries it is known by its subject and its role up to a minute
after it.
-/

namespace VolumePricing

open VolumePricing.Action
open Http (Request Response)

namespace Claims

variable {now : Instant} {lifetime : UInt64}

/-- The lifetime can be counted in milliseconds. -/
def IsSpan (lifetime : UInt64) : Prop :=
  lifetime.toInt64.toInt.natAbs * 1000 ≤ Int64.maxValue.toInt

/-- The second that comes so much later than now is on the calendar. -/
def OnCalendar (now : Instant) (lifetime : UInt64) : Prop :=
  Instant.firstSecond ≤ now.seconds + lifetime.toInt64.toInt ∧
    now.seconds + lifetime.toInt64.toInt ≤ Instant.lastSecond

theorem lifetimeSeconds_of_isSpan (h : IsSpan lifetime) :
    lifetimeSeconds lifetime = .ok lifetime.toInt64.toInt := if_pos h

theorem lifetimeSeconds_of_not_isSpan (h : ¬ IsSpan lifetime) :
    lifetimeSeconds lifetime = .error .seconds := if_neg h

theorem expiry_of_not_isSpan (h : ¬ IsSpan lifetime) (now : Instant) :
    expiry now lifetime = .error .seconds := by
  rw [expiry, lifetimeSeconds_of_not_isSpan h]
  rfl

theorem expiry_of_not_onCalendar (h : IsSpan lifetime) (hout : ¬ OnCalendar now lifetime) :
    expiry now lifetime = .error .instant := by
  rw [expiry, lifetimeSeconds_of_isSpan h]
  exact if_neg hout

theorem toNat_ofInt (n : ℤ) : ((UInt64.ofInt n).toNat : ℤ) = n % 2 ^ 64 := by
  rw [UInt64.ofInt, UInt64.toNat_ofNat']
  omega

/-- On the way through the words nothing is lost but multiples of their size. -/
theorem expiry_of_onCalendar (h : IsSpan lifetime) (hin : OnCalendar now lifetime) :
    ∃ expires : UInt64, expiry now lifetime = .ok expires ∧
      (expires.toNat : ℤ) = (now.seconds + lifetime.toNat) % 2 ^ 64 := by
  have hsigned : lifetime.toInt64.toInt = (lifetime.toNat : ℤ).bmod (2 ^ 64) :=
    BitVec.toInt_eq_toNat_bmod lifetime.toBitVec
  refine ⟨UInt64.ofInt (now.seconds + lifetime.toInt64.toInt), ?_, ?_⟩
  · rw [expiry, lifetimeSeconds_of_isSpan h]
    exact if_pos hin
  · have hsame : (lifetime.toNat : ℤ).bmod (2 ^ 64) % 2 ^ 64 = lifetime.toNat % 2 ^ 64 :=
      Int.bmod_emod
    rw [toNat_ofInt, hsigned, Int.add_emod, hsame, ← Int.add_emod]

end Claims

/-- What is worked out from the second at which a token expires: there may be no such second, and
where there is one it is stated in the claims and the outcome is what it should be. -/
inductive Dated {α : Type} (lifetime : UInt64) (now : Instant) (P : Claims → α → Prop) :
    Checked α → Prop
  | noSpan (h : ¬ Claims.IsSpan lifetime) : Dated lifetime now P (.error .seconds)
  | offCalendar (h : Claims.IsSpan lifetime) (hout : ¬ Claims.OnCalendar now lifetime) :
      Dated lifetime now P (.error .instant)
  | dated {claims : Claims} {a : α} (h : Claims.IsSpan lifetime)
      (hin : Claims.OnCalendar now lifetime)
      (hexpires : (claims.expires.toNat : ℤ) = (now.seconds + lifetime.toNat) % 2 ^ 64)
      (ha : P claims a) : Dated lifetime now P (.ok a)

/-- Whatever is made of the second at which a token for the subject expires. -/
theorem dated_expiry {α : Type} {lifetime : UInt64} {now : Instant} {P : Claims → α → Prop}
    {f : UInt64 → α} (subject role : String)
    (hf : ∀ expires, P { subject, role, expires } (f expires)) :
    Dated lifetime now P ((Claims.expiry now lifetime).map f) := by
  by_cases hspan : Claims.IsSpan lifetime
  · by_cases hin : Claims.OnCalendar now lifetime
    · obtain ⟨expires, hexpiry, hexpires⟩ := Claims.expiry_of_onCalendar hspan hin
      rw [hexpiry]
      exact .dated hspan hin hexpires (hf expires)
    · rw [Claims.expiry_of_not_onCalendar hspan hin]
      exact .offCalendar hspan hin
  · rw [Claims.expiry_of_not_isSpan hspan]
    exact .noSpan hspan

/-- The token is good for these claims as long as it lives and a minute longer. -/
def Token.GoodFor (secret token : String) (claims : Claims) : Prop :=
  ∀ later, Token.verify secret token later =
    if later.seconds ≤ claims.expires.toNat + 60 then some claims else none

theorem Token.goodFor_issue (secret : String) (claims : Claims) :
    Token.GoodFor secret (Token.issue secret claims) claims := by
  intro later
  have hlives : later.seconds - 60 ≤ claims.expires.toNat ↔
      later.seconds ≤ claims.expires.toNat + 60 := by omega
  rw [Token.verify_issue]
  simp only [Claims.liveAt, Claims.leeway, hlives, decide_eq_true_eq]

theorem issue_eq (secret subject role : String) (lifetime : UInt64) (now : Instant) :
    (Authority.signing secret lifetime).issue subject role now =
      (Claims.expiry now lifetime).map fun expires =>
        Token.issue secret { subject, role, expires } := rfl

/-! ### Tokens of guests -/

/-- Plain text behind the scheme is the token. -/
theorem Extract.bearer?_of_header {r : Request} {token : String}
    (h : Http.header? r.headers "authorization" = some ("Bearer " ++ token))
    (hplain : ∀ c ∈ token.toList, 0x20 ≤ c.toNat ∧ c.toNat < 0x7f) :
    Extract.bearer? r = some token := by
  have hall : (token.toList.all fun c => c = '\t' || (0x20 ≤ c.toNat && c.toNat < 0x7f)) = true := by
    rw [List.all_eq_true]
    intro c hc
    simp [hplain c hc]
  have htext : ("Bearer " ++ token).toList =
      'B' :: 'e' :: 'a' :: 'r' :: 'e' :: 'r' :: ' ' :: token.toList := by
    rw [String.toList_append]
    rfl
  unfold bearer?
  rw [h, Option.map_some, htext]
  calc _ = some (String.ofList token.toList) := if_pos hall
    _ = some token := by rw [String.ofList_toList]

namespace Service

variable {σ : Type} {s : Service σ} {secret : String} {lifetime : UInt64}

/-- Whoever carries the token is let in as a shopper with these claims, as long as it lives and a
minute longer. -/
def LetsIn (s : Service σ) (token : String) (claims : Claims) : Prop :=
  ∀ (r : Request) (moment : Moment),
    Http.header? r.headers "authorization" = some ("Bearer " ++ token) →
    s.screen .shopper r moment =
      if moment.now.seconds ≤ claims.expires.toNat + 60 then .ok (some claims)
      else .error .invalidToken

theorem letsIn_issue (hauthority : s.authority = .signing secret lifetime) (claims : Claims) :
    s.LetsIn (Token.issue secret claims) claims := by
  intro r moment hheader
  have hbearer : Extract.bearer? r = some (Token.issue secret claims) :=
    Extract.bearer?_of_header hheader fun c hc => Token.plain_of_mem_sign hc
  have hverify : s.authority.verify (Token.issue secret claims) moment.now =
      if moment.now.seconds ≤ claims.expires.toNat + 60 then some claims else none := by
    rw [hauthority]
    exact Token.goodFor_issue secret claims moment.now
  unfold screen identify
  rw [hbearer]
  dsimp only
  rw [hverify]
  split_ifs <;> rfl

/-- A guest is answered with a token for the identity that was made up. -/
theorem dated_guestLogin (hauthority : s.authority = .signing secret lifetime) {r : Request}
    (hpost : r.method = "POST") (hroute : Route.ofPath? r.path = some .guestLogin)
    (moment : Moment) (shop : Shop σ) :
    Dated lifetime moment.now (fun claims p => p.2 = shop ∧ p.1.status = 200 ∧
        claims.role = "GUEST" ∧
        claims.subject = "guest-" ++ (Uuid.ofRandom moment.random).text ∧
        ∃ token, p.1.body = .json (.object [("token", .string token)]) ∧ s.LetsIn token claims)
      (s.respond r moment shop) := by
  let subject := "guest-" ++ (Uuid.ofRandom moment.random).text
  let grant (expires : UInt64) : Json :=
    .object [("token", .string (Token.issue secret { subject, role := Role.guest, expires }))]
  have hadmitted : s.admitted? r moment = some (.guestLogin, "") := by
    unfold admitted?
    rw [hpost, hroute]
    rfl
  have hrun : s.run .guestLogin "" r moment shop =
      (Claims.expiry moment.now lifetime).map fun expires =>
        (.ok (reply (grant expires)), shop) := by
    dsimp only [run]
    rw [run_bind, guestLogin, hauthority, run_checked, issue_eq]
    cases Claims.expiry moment.now lifetime <;> rfl
  have hsent : s.respond r moment shop =
      (Claims.expiry moment.now lifetime).map fun expires =>
        (finished r (.ok (reply (grant expires))), shop) := by
    rw [respond_admitted hadmitted, hrun]
    cases Claims.expiry moment.now lifetime <;> rfl
  rw [hsent]
  refine dated_expiry subject Role.guest fun expires => ?_
  have hmethod : r.method ≠ "HEAD" := by simp [hpost]
  obtain ⟨hstatus, hbody⟩ := finished_reply hmethod (grant expires)
  exact ⟨rfl, hstatus, rfl, rfl, _, hbody, letsIn_issue hauthority _⟩

end Service

/-- Whatever the secret and the lifetime, a token is issued unless the lifetime is no span or leads
off the calendar. It expires at the sum of now and the lifetime, but for multiples of the size of a
word, and up to a minute after that it is good for the subject and the role that it was asked for,
as a guest finds who carries it. -/
theorem tokens_last (secret : String) (lifetime : UInt64) :
    (∀ subject role now, Dated lifetime now (fun claims token => claims.subject = subject ∧
        claims.role = role ∧ Token.GoodFor secret token claims)
      ((Authority.signing secret lifetime).issue subject role now)) ∧
    ∀ {σ : Type} (s : Service σ) (r : Request) (moment : Moment) (shop : Shop σ),
      s.authority = .signing secret lifetime → r.method = "POST" →
      Route.ofPath? r.path = some .guestLogin →
      Dated lifetime moment.now (fun claims p => p.2 = shop ∧ p.1.status = 200 ∧
          claims.role = "GUEST" ∧
          claims.subject = "guest-" ++ (Uuid.ofRandom moment.random).text ∧
          ∃ token, p.1.body = .json (.object [("token", .string token)]) ∧ s.LetsIn token claims)
        (s.respond r moment shop) := by
  constructor
  · intro subject role now
    rw [issue_eq]
    exact dated_expiry subject role fun expires => ⟨rfl, rfl, Token.goodFor_issue secret _⟩
  · intro σ s r moment shop hauthority hpost hroute
    exact Service.dated_guestLogin hauthority hpost hroute moment shop

namespace Seed

/-- Tokens of this service last an hour. -/
def hourly : Service Memory := ⟨Memory.store, {}, .signing "secret" 3600⟩

def arriving : Request where
  method := "POST"
  target := "/auth/guest"

end Seed

/-- A guest who comes at the first second is let in for an hour and a minute. -/
theorem tokens_last_hour :
    ∃ response token claims, Seed.hourly.respond Seed.arriving ⟨0, 0⟩ ⟨Seed.opened, .new {}⟩ =
        .ok (response, ⟨Seed.opened, .new {}⟩) ∧
      response.status = 200 ∧ response.body = .json (.object [("token", .string token)]) ∧
      claims.role = "GUEST" ∧ claims.expires = 3600 ∧ Seed.hourly.LetsIn token claims := by
  have hspan : Claims.IsSpan 3600 := by
    unfold Claims.IsSpan
    decide
  have hin : Claims.OnCalendar 0 3600 := by
    unfold Claims.OnCalendar
    decide
  have hguest := (tokens_last "secret" 3600).2 Seed.hourly Seed.arriving ⟨0, 0⟩
    ⟨Seed.opened, .new {}⟩ rfl rfl (by cbv)
  generalize hresult : Seed.hourly.respond Seed.arriving ⟨0, 0⟩ ⟨Seed.opened, .new {}⟩ = result
    at hguest
  cases hguest with
  | noSpan h => exact absurd hspan h
  | offCalendar h hout => exact absurd hin hout
  | @dated claims p h hin hexpires ha =>
    obtain ⟨response, shop'⟩ := p
    obtain ⟨rfl, hstatus, hrole, -, token, hbody, hlets⟩ := ha
    refine ⟨response, token, claims, rfl, hstatus, hbody, hrole, ?_, hlets⟩
    have hhour : (claims.expires.toNat : ℤ) = 3600 := hexpires
    exact UInt64.toNat_inj.mp (Int.ofNat_inj.mp hhour)

/-- A lifetime that is meant never to end is no span, and a shorter one may still lead off the
calendar. -/
theorem signing_overflows :
    (Authority.signing "s" 9223372036854775807).issue "ana" "GUEST" 0 = .error .seconds ∧
      (Authority.signing "s" 9000000000000).issue "ana" "GUEST" 0 = .error .instant := by
  have hlong : ¬ Claims.IsSpan 9223372036854775807 := by
    unfold Claims.IsSpan
    decide
  have hspan : Claims.IsSpan 9000000000000 := by
    unfold Claims.IsSpan
    decide
  have hout : ¬ Claims.OnCalendar 0 9000000000000 := by
    unfold Claims.OnCalendar
    decide
  constructor
  · rw [issue_eq, Claims.expiry_of_not_isSpan hlong]
    rfl
  · rw [issue_eq, Claims.expiry_of_not_onCalendar hspan hout]
    rfl

end VolumePricing
