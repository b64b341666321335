import PullRelay.Command.Run
import PullRelay.Proofs.Client.Errands
import PullRelay.Proofs.Except
import PullRelay.Proofs.Transport.Scripts

/-!
# Tokens are kept secret

Of a token no more is shown than the four characters at either end.  That is a statement on two
runs (`Environment.token_stays_secret`): under two environments that differ in tokens which look
alike, the same settings are shown, and over the network every sequence of errands ends in the
same way, with the same failures, remarks and pauses.  What is sent is the same as well, except for
the value of one header.

The last part needs no more of the two transports than that their machines give the same answers
and go on doing so (`Client.errands_of_matches`); for a session that plays replies this is so
whatever it is sent (`Api.matches_of_signs`).
-/

namespace PullRelay

/-! ## Tokens and settings -/

/-- Both tokens are so long that their middle is not shown, and look the same at either end. -/
def Token.Resembles (t₁ t₂ : Token) : Prop :=
  ∃ x y : String, t₁.secret? = some x ∧ t₂.secret? = some y ∧ 8 < x.length ∧ 8 < y.length ∧
    x.toList.take 4 = y.toList.take 4 ∧
    x.toList.drop (x.length - 4) = y.toList.drop (y.length - 4)

/-- There is a token, so that it signs requests. -/
def Token.Signs (t : Token) : Prop := ∃ x, t.secret? = some x ∧ x.isEmpty = false

theorem Token.Resembles.signs {t₁ t₂ : Token} (h : t₁.Resembles t₂) : t₁.Signs ∧ t₂.Signs := by
  obtain ⟨x, y, hx, hy, hxlong, hylong, -⟩ := h
  have hne {z : String} (hz : 8 < z.length) : z.isEmpty = false := by
    rw [String.isEmpty_eq_false_iff]
    rintro rfl
    cases hz
  exact ⟨⟨x, hx, hne hxlong⟩, ⟨y, hy, hne hylong⟩⟩

theorem Token.redacted_of_resembles {t₁ t₂ : Token} (h : t₁.Resembles t₂) :
    t₁.redacted = t₂.redacted := by
  obtain ⟨x, y, hx, hy, hxlong, hylong, hstart, hend⟩ := h
  rw [← String.length_toList] at hxlong hylong hend
  rw [← String.length_toList] at hend
  simp only [redacted, hx, hy, if_neg (Nat.not_le_of_gt hxlong), if_neg (Nat.not_le_of_gt hylong),
    hstart, hend]

/-- The environments are the same but for the variables that a token is read from. -/
def Environment.AgreeOffToken (env₁ env₂ : Environment) : Prop :=
  ∀ name, name ≠ "PR_BOT_GITHUB_TOKEN" → name ≠ "GITHUB_TOKEN" →
    env₁.lookup name = env₂.lookup name

/-- Then they have the same settings, each with its own token. -/
theorem Settings.ofEnv_of_agree {env₁ env₂ : Environment} (h : env₁.AgreeOffToken env₂) :
    ofEnv env₁ = (ofEnv env₂).map fun s ↦ { s with token := Token.ofEnv env₁ } := by
  have hget (name) (h₁ : name ≠ "PR_BOT_GITHUB_TOKEN") (h₂ : name ≠ "GITHUB_TOKEN") :
      env₁.get? name = env₂.get? name := by
    rw [Environment.get?, Environment.get?, h name h₁ h₂]
  have hwhole (name default least?) (h₁ : name ≠ "PR_BOT_GITHUB_TOKEN")
      (h₂ : name ≠ "GITHUB_TOKEN") :
      env₁.whole name default least? = env₂.whole name default least? := by
    simp only [Environment.whole, Environment.stripped?, hget name h₁ h₂]
  have hreal (name default) (h₁ : name ≠ "PR_BOT_GITHUB_TOKEN") (h₂ : name ≠ "GITHUB_TOKEN") :
      env₁.real name default = env₂.real name default := by
    simp only [Environment.real, Environment.stripped?, hget name h₁ h₂]
  simp only [ofEnv, Except.map_bind]
  simp (disch := decide) only [hwhole, hreal, hget]
  rfl

theorem Settings.token_of_ofEnv {env : Environment} {s : Settings} (h : ofEnv env = .ok s) :
    s.token = Token.ofEnv env := by
  have hself := @ofEnv_of_agree env env fun _ _ _ ↦ rfl
  rw [h] at hself
  exact congrArg token (Except.ok.inj hself)

/-- So the same is shown of them if the tokens look alike. -/
theorem Settings.redacted_of_agree {env₁ env₂ : Environment} (h : env₁.AgreeOffToken env₂)
    (htoken : (Token.ofEnv env₁).Resembles (Token.ofEnv env₂)) :
    (ofEnv env₁).map redacted = (ofEnv env₂).map redacted := by
  rw [ofEnv_of_agree h]
  cases hs : ofEnv env₂ with
  | error fault => rfl
  | ok s =>
    simp only [Except.map, redacted, maxPagesValue, Token.redacted_of_resembles htoken,
      token_of_ofEnv hs]

/-- What is shown is all that the command for it knows of the settings. -/
theorem Command.config_run_eq {σ : Type} (fuel : Nat) (t : Transport σ) (env : Environment)
    (w : World σ) (room : Room) :
    config.run fuel t env w room =
      match (Settings.ofEnv env).map Settings.redacted with
      | .ok fields => ((Conclusion.printed (.object fields)).emitted room.document, w)
      | .error fault => (.escaped (.fault fault), w) := by
  rw [run]
  cases hs : Settings.ofEnv env <;> simp only [reach, hs] <;> rfl

/-! ## Errands over transports that give the same answers -/

namespace Client

variable {σ₀ σ₁ σ₂ : Type}

/-- Over all transports that give the same answers an errand goes the same way. -/
theorem errand_alike (s : Settings) (fuel : Nat) (x : Errand) (t₀ : Transport σ₀) (m₀ : σ₀) :
    ∃ ending events, ∀ ⦃σ : Type⦄ (t : Transport σ) (m : σ),
      t.exchanges m events = t₀.exchanges m₀ events →
      (standard t s).errand fuel x { machine := m } =
        (ending, World.after t { machine := m } events) := by
  cases x with
  | operation op =>
    obtain ⟨ending, events, hrun⟩ := standard_run_alike s op fuel t₀ { machine := m₀ }
    refine ⟨ending.map .inl, events, fun σ t m h ↦ ?_⟩
    rw [errand, hrun t { machine := m } h]
  | quota =>
    refine ⟨(Ending.ofExcept ((t₀ QuotaSnapshot.request m₀).1.bind
      (QuotaSnapshot.ofResponse QuotaSnapshot.coreCategory))).map .inr,
      [.requested QuotaSnapshot.request], fun σ t m h ↦ ?_⟩
    have hanswer : (t QuotaSnapshot.request m).1 = (t₀ QuotaSnapshot.request m₀).1 :=
      congrArg Exchange.answer (List.cons.inj h).1
    have hquota : (standard t s).quota { machine := m } = _ :=
      QuotaSnapshot.fetch_apply t QuotaSnapshot.coreCategory { machine := m }
    rw [errand, hquota, hanswer]

/-- So do all errands over two transports whose machines give the same answers and go on doing
so. -/
theorem errands_of_matches {t₁ : Transport σ₁} {t₂ : Transport σ₂} {R : σ₁ → σ₂ → Prop}
    (ht : t₁.Matches t₂ R fun _ ↦ True) (s : Settings) (fuel : Nat) (xs : List Errand) {m₁ : σ₁}
    {m₂ : σ₂} (h : R m₁ m₂) :
    ((standard t₁ s).errands fuel xs m₁).1 = ((standard t₂ s).errands fuel xs m₂).1 ∧
      R ((standard t₁ s).errands fuel xs m₁).2 ((standard t₂ s).errands fuel xs m₂).2 := by
  induction xs generalizing m₁ m₂ with
  | nil => exact ⟨rfl, h⟩
  | cons x xs ih =>
    -- The first errand takes the course that it takes on the second machine, on the first one too.
    obtain ⟨ending, events, hgo⟩ := errand_alike s fuel x t₂ m₂
    have hexchanges : t₁.exchanges m₁ events = t₂.exchanges m₂ events :=
      ht.exchanges_eq h fun _ _ ↦ trivial
    have hafter : R (t₁.machineAfter m₁ events) (t₂.machineAfter m₂ events) :=
      ht.machineAfter h fun _ _ ↦ trivial
    obtain ⟨hreports, hleft⟩ := ih hafter
    rw [errands_cons (hgo t₁ m₁ hexchanges), errands_cons (hgo t₂ m₂ rfl)]
    exact ⟨congrArg (_ :: ·) hreports, hleft⟩

end Client

/-! ## Sessions that play replies -/

/-- What is sent, with the value of a header taken out. -/
def Sent.covering (name : String) (x : Sent) : Sent :=
  { x with headers := x.headers.map fun h ↦ if h.1 = name then (name, "") else h }

/-- The same replies wait, and what was sent is the same up to the value of a header. -/
structure Replies.SameUpTo (name : String) (m₁ m₂ : Replies) : Prop where
  waiting : m₁.waiting = m₂.waiting
  sent : m₁.sent.map (Sent.covering name) = m₂.sent.map (Sent.covering name)

namespace Api

variable {t₁ t₂ : Token}

/-- With tokens or others, the same is sent up to the value of the header that they go into. -/
theorem covering_outgoing (a : Api) (h₁ : t₁.Signs) (h₂ : t₂.Signs) (r : Request) :
    ({ a with token := t₁ }.outgoing r).covering "Authorization" =
      ({ a with token := t₂ }.outgoing r).covering "Authorization" := by
  obtain ⟨x, hx, hxne⟩ := h₁
  obtain ⟨y, hy, hyne⟩ := h₂
  simp [outgoing, baseUrl, headers, hx, hy, hxne, hyne, Sent.covering]

/-- No token matters to what is made of a reply. -/
theorem answer_token (a : Api) (t₁ t₂ : Token) (r : Request) (x : Reply) :
    { a with token := t₁ }.answer r x = { a with token := t₂ }.answer r x := by cases x <;> rfl

/-- Over a session that plays replies, nothing else depends on the token. -/
theorem matches_of_signs (a : Api) (h₁ : t₁.Signs) (h₂ : t₂.Signs) :
    ({ a with token := t₁ }.transport Replies.session).Matches
      ({ a with token := t₂ }.transport Replies.session) (Replies.SameUpTo "Authorization")
      fun _ ↦ True where
  answer := by
    intro r m₁ m₂ _ h
    rw [transport_eq, transport_eq, Replies.session, Replies.session, h.waiting]
    exact a.answer_token t₁ t₂ r _
  machine := by
    intro r m₁ m₂ _ h
    rw [transport_eq, transport_eq]
    refine ⟨congrArg List.tail h.waiting, ?_⟩
    rw [Replies.sent_session, Replies.sent_session, List.map_append, List.map_append, h.sent,
      List.map_singleton, List.map_singleton, a.covering_outgoing h₁ h₂]

end Api

/-- What is reported of errands under a token over the network, and what is sent on them. -/
def Client.errandsOver (fuel : Nat) (a : Api) (s : Settings) (token : Token) (xs : List Errand)
    (replies : List Reply) : Except Fault (List Errand.Report × List Sent) :=
  (Client.ofSettings ({ a with token }.transport Replies.session) { s with token }).map fun c ↦
    ((c.errands fuel xs { waiting := replies }).1, (c.errands fuel xs { waiting := replies }).2.sent)

/-- Errands are the same under all tokens, up to a header of what is sent. -/
theorem Client.errandsOver_of_signs {t₁ t₂ : Token} (h₁ : t₁.Signs) (h₂ : t₂.Signs) (fuel : Nat)
    (a : Api) (s : Settings) (xs : List Errand) (replies : List Reply) :
    (errandsOver fuel a s t₁ xs replies).map
        (Prod.map id (List.map (Sent.covering "Authorization"))) =
      (errandsOver fuel a s t₂ xs replies).map
        (Prod.map id (List.map (Sent.covering "Authorization"))) := by
  have hstart : Replies.SameUpTo "Authorization" { waiting := replies } { waiting := replies } :=
    ⟨rfl, rfl⟩
  obtain ⟨hreports, hleft⟩ := errands_of_matches (a.matches_of_signs h₁ h₂) s fuel xs hstart
  unfold errandsOver
  rw [ofSettings_eq, ofSettings_eq]
  split
  · rfl
  · split
    · rfl
    · exact congrArg Except.ok (Prod.ext hreports hleft.sent)

/-- Under two environments that differ in tokens which look alike, the same settings are shown,
and the command for it ends in the same way.  Over the network, with the same replies, errands
end in the same way after the same requests, remarks and pauses, and what is sent differs in the
value of one header at most. -/
theorem Environment.token_stays_secret {env₁ env₂ : Environment} (h : env₁.AgreeOffToken env₂)
    (htoken : (Token.ofEnv env₁).Resembles (Token.ofEnv env₂)) :
    (Settings.ofEnv env₁).map Settings.redacted = (Settings.ofEnv env₂).map Settings.redacted ∧
    (∀ (σ : Type) (fuel : Nat) (t : Transport σ) (w : World σ) (room : Room),
      Command.config.run fuel t env₁ w room = Command.config.run fuel t env₂ w room) ∧
    ∀ (fuel : Nat) (a : Api) (s : Settings) (xs : List Errand) (replies : List Reply),
      (Client.errandsOver fuel a s (Token.ofEnv env₁) xs replies).map
          (Prod.map id (List.map (Sent.covering "Authorization"))) =
        (Client.errandsOver fuel a s (Token.ofEnv env₂) xs replies).map
          (Prod.map id (List.map (Sent.covering "Authorization"))) := by
  have hshown := Settings.redacted_of_agree h htoken
  refine ⟨hshown, fun σ fuel t w room ↦ ?_, fun fuel a s xs replies ↦ ?_⟩
  · rw [Command.config_run_eq, Command.config_run_eq, hshown]
  · exact Client.errandsOver_of_signs htoken.signs.1 htoken.signs.2 fuel a s xs replies

/-- A token of its own. -/
def Environment.own : Environment :=
  [("PR_BOT_PER_PAGE", "50"), ("PR_BOT_GITHUB_TOKEN", "ghp_0123456789abcd")]

/-- A token that looks the same, in the other variable. -/
def Environment.shared : Environment :=
  [("PR_BOT_PER_PAGE", "50"), ("GITHUB_TOKEN", "ghp_9876abcd")]

theorem Environment.own_token_stays_secret :
    own.AgreeOffToken shared ∧ (Token.ofEnv own).Resembles (Token.ofEnv shared) ∧
    Token.ofEnv own ≠ Token.ofEnv shared ∧
    (Settings.ofEnv own).map Settings.redacted = (Settings.ofEnv shared).map Settings.redacted ∧
    (Client.errandsOver 0 {} {} (Token.ofEnv own) [.quota] [.disconnected "refused"]).map
        (Prod.map id (List.map (Sent.covering "Authorization"))) =
      (Client.errandsOver 0 {} {} (Token.ofEnv shared) [.quota] [.disconnected "refused"]).map
        (Prod.map id (List.map (Sent.covering "Authorization"))) := by
  have hagree : own.AgreeOffToken shared := by
    intro name h₁ h₂
    have hown : (name == "PR_BOT_GITHUB_TOKEN") = false := beq_false_of_ne h₁
    have hshared : (name == "GITHUB_TOKEN") = false := beq_false_of_ne h₂
    simp only [own, shared, List.lookup_cons, List.lookup_nil, hown, hshared]
  have htoken : (Token.ofEnv own).Resembles (Token.ofEnv shared) :=
    ⟨"ghp_0123456789abcd", "ghp_9876abcd", by decide +kernel⟩
  obtain ⟨hshown, -, herrands⟩ := token_stays_secret hagree htoken
  exact ⟨hagree, htoken, by decide +kernel, hshown, herrands 0 {} {} _ _⟩

end PullRelay
