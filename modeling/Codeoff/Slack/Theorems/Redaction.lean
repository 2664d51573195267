import Codeoff.Control.Masking
import Codeoff.Slack.WebApi

/-!
# 秘匿の完全さと安定

`redact_secrets` は、渡された認証を置き換え、`Bearer ` に続く語を伏せ、トークンの形をした部分を伏
せる。
-/

namespace Codeoff.Slack.WebApi

open Codeoff.Control

/-- `Bearer ` に続く語の終わり。 -/
def isBearerEnd (c : Char) : Bool := isAsciiWhitespace c || ['"', '\'', ',', ')', ']'].contains c

def isTokenChar (c : Char) : Bool := c.isAlphanum || c = '-' || c = '_'

def startsToken (cs : List Char) : Bool := slackTokenHeads.any fun head => head.toList.isPrefixOf cs

theorem startsToken_iff {cs : List Char} : startsToken cs = true ↔ ∃ head ∈ slackTokenHeads, head.toList <+: cs := by
  simp [startsToken]

theorem head_of_startsToken {c : Char} {cs : List Char} (h : startsToken (c :: cs) = true) : c = 'x' := by
  obtain ⟨head, hmem, hprefix⟩ := startsToken_iff.mp h
  have hfirst : ∀ head ∈ slackTokenHeads, head.toList.head? = some 'x' := by decide
  have hhead := hfirst head hmem
  cases hlist : head.toList with
  | nil => simp [hlist] at hhead
  | cons d ds =>
    rw [hlist, List.head?_cons, Option.some.injEq] at hhead
    rw [hlist, List.cons_prefix_cons] at hprefix
    exact hprefix.1.symm.trans hhead

def bearerScan : Scan Char where
  opens cs := "Bearer ".toList.isPrefixOf cs
  mask := "Bearer <redacted>".toList
  skip cs := (cs.drop 7).dropWhile fun d => !isBearerEnd d
  skip_suffix _ as _ := (List.dropWhile_suffix _).trans (List.drop_suffix 6 as)

def tokenScan : Scan Char where
  opens := startsToken
  mask := "<redacted>".toList
  skip cs := cs.dropWhile isTokenChar
  skip_suffix a as h := by
    obtain rfl := head_of_startsToken h
    rw [List.dropWhile_cons_of_pos (by decide)]
    exact List.dropWhile_suffix _

theorem redactBearerChars_eq (n : Nat) (cs : List Char) : redactBearerChars n cs = bearerScan.run n cs := by
  induction n generalizing cs with
  | zero => rfl
  | succ n ih =>
    cases cs with
    | nil => rfl
    | cons c cs =>
      simp only [redactBearerChars, Scan.run, ih]
      rfl

theorem redactTokenChars_eq (n : Nat) (cs : List Char) : redactTokenChars n cs = tokenScan.run n cs := by
  induction n generalizing cs with
  | zero => rfl
  | succ n ih =>
    cases cs with
    | nil => rfl
    | cons c cs =>
      simp only [redactTokenChars, Scan.run, ih]
      rfl

theorem toList_redactSecrets (value : String) :
    (redactSecrets value).toList = tokenScan.apply (bearerScan.apply value.toList) := by
  rw [redactSecrets, String.toList_ofList, redactTokenChars_eq, redactBearerChars_eq,
    Scan.run_eq_apply (Nat.le_refl _), Scan.run_eq_apply (Nat.le_of_eq String.length_toList)]

theorem tokens_gone (cs : List Char) : ∀ t, t <:+ tokenScan.apply cs → startsToken t = false := by
  intro t ht
  cases t with
  | nil => rfl
  | cons a as =>
    by_contra hopens
    rw [Bool.not_eq_false] at hopens
    rcases Scan.suffix_of_apply ht (List.cons_ne_nil a as) with ⟨m, b, bs, hne, hm, -, heq⟩ | ⟨b, bs, -, hplain, heq⟩
    · have hmask : 'x' ∉ tokenScan.mask := by decide
      cases m with
      | nil => exact hne rfl
      | cons x m =>
        rw [List.cons_append, List.cons.injEq] at heq
        exact hmask (hm.subset (head_of_startsToken hopens ▸ heq.1 ▸ List.mem_cons_self))
    · obtain ⟨head, hmem, hprefix⟩ := startsToken_iff.mp hopens
      have havoid : ∀ head ∈ slackTokenHeads, '<' ∉ head.toList := by decide
      rw [heq] at hprefix
      have hinput := Scan.prefix_of_apply rfl (havoid head hmem) hprefix
      exact Bool.false_ne_true (hplain.symm.trans (startsToken_iff.mpr ⟨head, hmem, hinput⟩))

/-! ## 覆いは崩れない -/

/-- `Bearer ` の語が、すでに覆われている。 -/
def Masked (t : List Char) : Prop :=
  ∃ rest, t = bearerScan.mask ++ rest ∧ ∀ d ∈ rest.head?, isBearerEnd d = true

theorem bearerScan_opens {t : List Char} : bearerScan.opens t = true ↔ "Bearer ".toList <+: t := by
  simp [bearerScan]

theorem head_of_apply {S : Scan Char} (hend : ∀ d l, isBearerEnd d = true → S.opens (d :: l) = false)
    {rest : List Char} (hrest : ∀ d ∈ rest.head?, isBearerEnd d = true) :
    ∀ d ∈ (S.apply rest).head?, isBearerEnd d = true := by
  cases rest with
  | nil => exact fun d hd => hrest d hd
  | cons a rest =>
    have ha := hrest a rfl
    rw [Scan.apply_plain (hend a rest ha)]
    exact fun d hd => hrest d hd

theorem bearer_end_plain (d : Char) (l : List Char) (hd : isBearerEnd d = true) : bearerScan.opens (d :: l) = false := by
  by_contra hopens
  rw [Bool.not_eq_false, bearerScan_opens] at hopens
  obtain rfl := (List.cons_prefix_cons.mp hopens).1
  exact absurd hd (by decide)

theorem token_end_plain (d : Char) (l : List Char) (hd : isBearerEnd d = true) : tokenScan.opens (d :: l) = false := by
  by_contra hopens
  rw [Bool.not_eq_false] at hopens
  obtain rfl := head_of_startsToken hopens
  exact absurd hd (by decide)

theorem bearer_masked (cs : List Char) :
    ∀ t, t <:+ bearerScan.apply cs → bearerScan.opens t = true → Masked t := by
  intro t ht hopens
  have hne : t ≠ [] := by
    rintro rfl
    cases hopens
  rw [bearerScan_opens] at hopens
  rcases Scan.suffix_of_apply ht hne with ⟨m, b, bs, hm, hsuffix, -, rfl⟩ | ⟨b, bs, -, hplain, rfl⟩
  · have hstart : ∀ m ∈ bearerScan.mask.tails, m.head? = some 'B' → m = bearerScan.mask := by decide
    have hhead : m.head? = some 'B' := by
      cases m with
      | nil => exact absurd rfl hm
      | cons x m => exact congrArg some (List.cons_prefix_cons.mp hopens).1.symm
    obtain rfl := hstart m ((List.mem_tails _ _).mpr hsuffix) hhead
    refine ⟨_, rfl, head_of_apply bearer_end_plain fun d hd => ?_⟩
    have hnot := List.head?_dropWhile_not (fun d => !isBearerEnd d) ((b :: bs).drop 7)
    rw [show ((b :: bs).drop 7).dropWhile _ = bearerScan.skip (b :: bs) from rfl, Option.mem_def.mp hd] at hnot
    simpa using hnot
  · rw [Scan.apply_plain hplain] at hopens
    obtain ⟨hb, htail⟩ := List.cons_prefix_cons.mp hopens
    have hinput := Scan.prefix_of_apply (S := bearerScan) rfl (by decide) htail
    exact absurd (bearerScan_opens.mpr (List.cons_prefix_cons.mpr ⟨hb, hinput⟩)) (by rw [hplain]; decide)

theorem masked_tokens {cs : List Char} (h : ∀ t, t <:+ cs → bearerScan.opens t = true → Masked t) :
    ∀ t, t <:+ tokenScan.apply cs → bearerScan.opens t = true → Masked t := by
  intro t ht hopens
  have hne : t ≠ [] := by
    rintro rfl
    cases hopens
  rw [bearerScan_opens] at hopens
  rcases Scan.suffix_of_apply ht hne with ⟨m, b, bs, hm, hsuffix, -, rfl⟩ | ⟨b, bs, hsuffix, hplain, rfl⟩
  · have havoid : 'B' ∉ tokenScan.mask := by decide
    cases m with
    | nil => exact absurd rfl hm
    | cons x m =>
      obtain rfl := (List.cons_prefix_cons.mp hopens).1
      exact absurd (hsuffix.subset List.mem_cons_self) havoid
  · have hinput := Scan.prefix_of_apply (S := tokenScan) rfl (by decide) hopens
    obtain ⟨rest, hlist, hrest⟩ := h _ hsuffix (bearerScan_opens.mpr hinput)
    have hcopied : ∀ c ∈ bearerScan.mask, ∀ l, tokenScan.opens (c :: l) = false := by
      intro c hc l
      by_contra hx
      rw [Bool.not_eq_false] at hx
      obtain rfl := head_of_startsToken hx
      exact absurd hc (by decide)
    rw [hlist, Scan.apply_append hcopied]
    exact ⟨_, rfl, head_of_apply token_end_plain hrest⟩

theorem Masked.eq_skip {t : List Char} (h : Masked t) : t = bearerScan.mask ++ bearerScan.skip t := by
  obtain ⟨rest, rfl, hrest⟩ := h
  have hdrop : (bearerScan.mask ++ rest).drop 7 = "<redacted>".toList ++ rest := rfl
  have hword : ∀ d ∈ "<redacted>".toList, (!isBearerEnd d) = true := List.all_eq_true.mp (by decide)
  have hstop : rest.dropWhile (fun d => !isBearerEnd d) = rest := by
    cases rest with
    | nil => rfl
    | cons d rest => rw [List.dropWhile_cons_of_neg (by simp [hrest d rfl])]
  have hskip : bearerScan.skip (bearerScan.mask ++ rest) = rest := by
    simp only [bearerScan] at hdrop ⊢
    rw [hdrop, List.dropWhile_append_of_pos hword, hstop]
  rw [hskip]

theorem redactSecrets_idem (value : String) : redactSecrets (redactSecrets value) = redactSecrets value := by
  apply String.toList_injective
  rw [toList_redactSecrets, toList_redactSecrets]
  have hmasked := masked_tokens (bearer_masked value.toList)
  rw [Scan.apply_eq_self (S := bearerScan) fun t ht hopens => (hmasked t ht hopens).eq_skip]
  refine Scan.apply_eq_self fun t ht hopens => ?_
  rw [show tokenScan.opens t = startsToken t from rfl, tokens_gone _ t ht] at hopens
  cases hopens

theorem containsText_iff {value needle : String} :
    containsText value needle = true ↔ ∃ t, t <:+ value.toList ∧ needle.toList <+: t := by
  simp [containsText]

theorem replaceText_absent {value pattern : String} (replacement : String)
    (h : containsText value pattern = false) : replaceText value pattern replacement = value := by
  have habsent : ∀ t, t <:+ value.toList → ¬pattern.toList <+: t := by
    intro t ht hprefix
    have hcontains := containsText_iff.mpr ⟨t, ht, hprefix⟩
    rw [h] at hcontains
    cases hcontains
  have hne : pattern.toList ≠ [] := by
    intro hnil
    exact habsent [] List.nil_suffix (by rw [hnil])
  have hkeep : ∀ n cs, cs <:+ value.toList → replaceChars pattern.toList replacement.toList n cs = cs := by
    intro n cs hcs
    induction n generalizing cs with
    | zero => rfl
    | succ n ih =>
      cases cs with
      | nil => rw [replaceChars, if_neg hne]
      | cons c cs =>
        have hplain : ¬pattern.toList.isPrefixOf (c :: cs) = true := by
          rw [List.isPrefixOf_iff_prefix]
          exact habsent _ hcs
        rw [replaceChars, if_neg hne, if_neg hplain, ih cs ((List.suffix_cons c cs).trans hcs)]
  rw [replaceText, hkeep _ _ (List.suffix_refl _), String.ofList_toList]

def AuthorizationAbsent (authorization : Option String) (value : String) : Prop :=
  ∀ a ∈ authorization, containsText value a = false

theorem redactSecretsWith_absent {value : String} {authorization : Option String}
    (h : AuthorizationAbsent authorization value) : redactSecretsWith value authorization = redactSecrets value := by
  cases authorization with
  | none => rfl
  | some a => rw [redactSecretsWith, replaceText_absent _ (h a rfl)]

/-- 呼び出し側の作る認証は、`Bearer ` の現れない文面には現れない。 -/
theorem authorizationAbsent_of_bearer {value : String} (h : containsText value "Bearer " = false) (token : String) :
    AuthorizationAbsent (some ("Bearer " ++ token)) value := by
  intro a ha
  obtain rfl := Option.some.inj ha
  by_contra hcontains
  rw [Bool.not_eq_false, containsText_iff] at hcontains
  obtain ⟨t, ht, hprefix⟩ := hcontains
  have hbearer := containsText_iff.mpr ⟨t, ht, (String.toList_append ▸ List.prefix_append _ _).trans hprefix⟩
  rw [h] at hbearer
  cases hbearer

def EndsToken (cs : List Char) : Prop := ∀ c ∈ cs.head?, isTokenChar c = false

/-- 二つの列は、トークンの接頭辞に続く字の並びだけが違う。 -/
inductive SameOutsideTokens : List Char → List Char → Prop
  | nil : SameOutsideTokens [] []
  | plain {c : Char} {cs ds : List Char} (hcs : startsToken (c :: cs) = false) (hds : startsToken (c :: ds) = false)
      (rest : SameOutsideTokens cs ds) : SameOutsideTokens (c :: cs) (c :: ds)
  | token {head : String} {body body' cs ds : List Char} (hhead : head ∈ slackTokenHeads)
      (hbody : ∀ c ∈ body, isTokenChar c = true) (hbody' : ∀ c ∈ body', isTokenChar c = true)
      (hcs : EndsToken cs) (hds : EndsToken ds) (rest : SameOutsideTokens cs ds) :
      SameOutsideTokens (head.toList ++ body ++ cs) (head.toList ++ body' ++ ds)

theorem apply_token {head : String} {body cs : List Char} (hhead : head ∈ slackTokenHeads)
    (hbody : ∀ c ∈ body, isTokenChar c = true) (hcs : EndsToken cs) :
    tokenScan.apply (head.toList ++ body ++ cs) = tokenScan.mask ++ tokenScan.apply cs := by
  have hopens : tokenScan.opens (head.toList ++ body ++ cs) = true :=
    startsToken_iff.mpr ⟨head, hhead, List.append_assoc _ _ _ ▸ List.prefix_append _ _⟩
  have hchars : ∀ head ∈ slackTokenHeads, head.toList.all isTokenChar = true := by decide
  have hrun : ∀ c ∈ head.toList ++ body, isTokenChar c = true := by
    intro c hc
    rcases List.mem_append.mp hc with hc | hc
    · exact List.all_eq_true.mp (hchars head hhead) c hc
    · exact hbody c hc
  have hstop : cs.dropWhile isTokenChar = cs := by
    cases cs with
    | nil => rfl
    | cons c cs => rw [List.dropWhile_cons_of_neg (by simp [hcs c rfl])]
  have hskip : tokenScan.skip (head.toList ++ body ++ cs) = cs := by
    simp only [tokenScan]
    rw [List.dropWhile_append_of_pos hrun, hstop]
  rw [Scan.apply_of_opens rfl hopens, hskip]

theorem SameOutsideTokens.apply_eq {cs ds : List Char} (h : SameOutsideTokens cs ds) :
    tokenScan.apply cs = tokenScan.apply ds := by
  induction h with
  | nil => rfl
  | plain hcs hds rest ih => rw [Scan.apply_plain hcs, Scan.apply_plain hds, ih]
  | token hhead hbody hbody' hcs hds rest ih =>
    rw [apply_token hhead hbody hcs, apply_token hhead hbody' hds, ih]

theorem redactSecrets_plain {value : String} (h : containsText value "Bearer " = false) :
    (redactSecrets value).toList = tokenScan.apply value.toList := by
  rw [toList_redactSecrets]
  refine congrArg _ (Scan.apply_eq_self fun t ht hopens => ?_)
  have hbearer := containsText_iff.mpr ⟨t, ht, bearerScan_opens.mp hopens⟩
  rw [h] at hbearer
  cases hbearer

/-- 出力に接頭辞は残らない。認証を渡さないか、渡した認証が出力に現れなければ、もう一度秘匿しても変わらない。 -/
theorem redaction_complete_and_stable :
    (∀ value authorization, ∀ head ∈ slackTokenHeads,
      containsText (redactSecretsWith value authorization) head = false) ∧
    (∀ value authorization again, AuthorizationAbsent again (redactSecretsWith value authorization) →
      redactSecretsWith (redactSecretsWith value authorization) again = redactSecretsWith value authorization) ∧
    (∀ value value' authorization, SameOutsideTokens value.toList value'.toList →
      containsText value "Bearer " = false → containsText value' "Bearer " = false →
      AuthorizationAbsent authorization value → AuthorizationAbsent authorization value' →
      redactSecretsWith value authorization = redactSecretsWith value' authorization) := by
  have hform : ∀ value authorization, ∃ source, redactSecretsWith value authorization = redactSecrets source := by
    intro value authorization
    cases authorization with
    | none => exact ⟨value, rfl⟩
    | some a => exact ⟨_, rfl⟩
  refine ⟨fun value authorization head hhead => ?_, fun value authorization again hagain => ?_,
    fun value value' authorization hsame hplain hplain' habsent habsent' => ?_⟩
  · obtain ⟨source, hsource⟩ := hform value authorization
    rw [hsource]
    by_contra hcontains
    rw [Bool.not_eq_false, containsText_iff, toList_redactSecrets] at hcontains
    obtain ⟨t, ht, hprefix⟩ := hcontains
    have hstarts := startsToken_iff.mpr ⟨head, hhead, hprefix⟩
    rw [tokens_gone _ t ht] at hstarts
    cases hstarts
  · obtain ⟨source, hsource⟩ := hform value authorization
    rw [redactSecretsWith_absent hagain, hsource, redactSecrets_idem]
  · rw [redactSecretsWith_absent habsent, redactSecretsWith_absent habsent']
    apply String.toList_injective
    rw [redactSecrets_plain hplain, redactSecrets_plain hplain', hsame.apply_eq]

/-- 認証を渡さないとき。 -/
theorem redaction_complete_and_stable_sample :
    containsText (redactSecretsWith "a xoxb-1 b" none) "xoxb-" = false ∧
    redactSecretsWith (redactSecretsWith "a xoxb-1 b" none) none = redactSecretsWith "a xoxb-1 b" none ∧
    redactSecretsWith "xoxb-1" (some "Bearer t") = redactSecretsWith "xoxb-2" (some "Bearer t") := by
  obtain ⟨hgone, hidem, hsame⟩ := redaction_complete_and_stable
  have hdiffer : SameOutsideTokens "xoxb-1".toList "xoxb-2".toList :=
    @SameOutsideTokens.token "xoxb-" ['1'] ['2'] [] [] (by decide) (List.all_eq_true.mp (by decide))
      (List.all_eq_true.mp (by decide))
      (fun c hc => nomatch hc) (fun c hc => nomatch hc) .nil
  exact ⟨hgone _ none _ (by decide), hidem _ none none (fun a ha => nomatch ha),
    hsame _ _ _ hdiffer (by decide) (by decide) (authorizationAbsent_of_bearer (by decide) "t")
      (authorizationAbsent_of_bearer (by decide) "t")⟩

/-- 渡した認証が覆いの一部であれば、もう一度の秘匿で出力が変わる。認証がトークンの途中に現れれば、トークンの中身が出力に
現れる。 -/
theorem authorization_in_mask :
    redactSecretsWith (redactSecretsWith "Bearer a" (some "Bearer <redacted>")) (some "Bearer <redacted>") ≠
      redactSecretsWith "Bearer a" (some "Bearer <redacted>") ∧
    redactSecretsWith "xoxb-1" (some "b-1") ≠ redactSecretsWith "xoxb-2" (some "b-1") := by decide +kernel

end Codeoff.Slack.WebApi
