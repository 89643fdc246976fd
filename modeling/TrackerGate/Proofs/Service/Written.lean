import TrackerGate.Proofs.Token.Shown
import TrackerGate.Service.RefreshBody

/-!
# Refresh bodies as they are written

The body that is written for a text is read back to this text, whatever the text is:
`RefreshBody.parse_written`. The only limit is that of any body. A text cannot be written
shorter than it is (`RefreshBody.length_lt_written`), so one that is longer than bodies may be
never gets through; but a refresh token does, unless the name in it is very long
(`RefreshBody.length_written_shown_le`).
-/

namespace TrackerGate

/-! ## Lengths -/

/-- A number below `10 ^ (k + 1)` has at most `k + 1` digits. -/
theorem Decimal.length_digits_le {n k : Nat} (h : n < Nat.pow 10 (k + 1)) :
    (digits n).length ≤ k + 1 := by
  induction k generalizing n with
  | zero =>
      have hdigit : n < 10 := h
      rw [digits, if_pos hdigit]
      exact Nat.le_refl _
  | succ k ih =>
      rw [digits]
      split
      · simp
      · have hfront : n / 10 < Nat.pow 10 (k + 1) := by
          rw [Nat.pow_eq, Nat.pow_succ, ← Nat.pow_eq] at h
          omega
        have hlength := ih hfront
        rw [List.length_append, List.length_singleton]
        omega

theorem Base64Url.length_encode_le (o : Octets) : (encode o).length ≤ 2 * o.length := by
  fun_induction encode o with
  | case1 => simp
  | case2 a => simp
  | case3 a b => simp
  | case4 a b c rest ih =>
      simp only [List.length_cons]
      omega

namespace Json

theorem length_printInt_le {n : Int} (h : n.natAbs < 100000000000000000000) :
    (printInt n).length ≤ 21 := by
  cases n with
  | ofNat n =>
      have hdigits : (Decimal.digits n).length ≤ 20 := Decimal.length_digits_le h
      rw [printInt, printNat, List.length_map]
      omega
  | negSucc n =>
      have hdigits : (Decimal.digits (n + 1)).length ≤ 20 := Decimal.length_digits_le h
      rw [printInt, printNat, List.length_cons, List.length_map]
      omega

/-- An octet of a text takes one octet to write, or up to six. -/
theorem Literal.length_flatMap_printUnit (o : Octets) :
    o.length ≤ ((ofOctets o).flatMap printUnit).length
      ∧ ((ofOctets o).flatMap printUnit).length ≤ 6 * o.length := by
  have hunit (u : StringUnit) : 1 ≤ (printUnit u).length ∧ (printUnit u).length ≤ 6 := by
    cases u <;> simp [printUnit]
  induction o with
  | nil => exact ⟨Nat.le_refl _, Nat.le_refl _⟩
  | cons b o ih =>
      have hfirst := hunit (unitOf b)
      rw [ofOctets, List.map_cons, List.flatMap_cons, List.length_append, ← ofOctets,
        List.length_cons]
      omega

theorem length_print_ofText_le (s : String) :
    (ofText s).print.length ≤ 6 * (Octets.ofText s).length + 2 := by
  obtain ⟨-, hle⟩ := Literal.length_flatMap_printUnit (Octets.ofText s)
  rw [ofText, print, Literal.print, Literal.ofText]
  simp only [List.length_append, List.length_cons, List.length_nil]
  omega

end Json

theorem Claims.length_print_le {c : Claims} (hnone : c.permissions = none) :
    c.toJson.print.length ≤ 6 * (Octets.ofText c.username).length + 200 := by
  obtain ⟨kind, subject, username, isSuperuser, permissions, expiry, issuedAt⟩ := c
  obtain rfl := hnone
  have hkind : kind.toJson.print.length ≤ 16 := by cases kind <;> decide
  have hname := Json.length_print_ofText_le username
  have hsuper : (Json.bool isSuperuser).print.length ≤ 5 := by cases isSuperuser <;> decide
  have hsubject : (Json.printInt subject.toInt).length ≤ 21 := by
    have hlt := subject.toInt_lt
    have hle := subject.le_toInt
    refine Json.length_printInt_le ?_
    omega
  have hmoment (t : UInt64) : (Json.printInt t.toNat).length ≤ 21 := by
    have hlt := t.toNat_lt
    refine Json.length_printInt_le ?_
    omega
  have hexpiry := hmoment expiry
  have hissued := hmoment issuedAt
  have hnames : (Json.Literal.ofText "token_type").print.length = 12
      ∧ (Json.Literal.ofText "sub").print.length = 5
      ∧ (Json.Literal.ofText "username").print.length = 10
      ∧ (Json.Literal.ofText "is_superuser").print.length = 14
      ∧ (Json.Literal.ofText "exp").print.length = 5
      ∧ (Json.Literal.ofText "iat").print.length = 5 := by decide
  obtain ⟨htype, hsub, huser, his, hexp, hiat⟩ := hnames
  have hnumber (n : Int) : (Json.int n).print = Json.printInt n := by rw [Json.print]
  rw [toJson, Json.record, Json.print]
  simp only [lastingMembers, Option.map_none, Option.toList_none, List.append_nil,
    List.cons_append, List.nil_append, List.map_cons, List.map_nil, Json.printMembers,
    Json.ofInt64, Json.ofUInt64, hnumber, List.length_append, List.length_cons, List.length_nil,
    htype, hsub, huser, his, hexp, hiat]
  omega

/-- A token without permissions is not much longer than the name in it. -/
theorem Token.length_encode_le (s : TokenSettings) {c : Claims} (hnone : c.permissions = none) :
    (encode s c).length ≤ 12 * (Octets.ofText c.username).length + 520 := by
  have hheader : TokenHeader.own.print.length = 27 := by decide
  have hfront := Base64Url.length_encode_le TokenHeader.own.print
  have hclaims := Claims.length_print_le hnone
  have hmiddle := Base64Url.length_encode_le c.toJson.print
  have hsignature := Base64Url.length_encode_le (Hmac.sign s.secret (message c))
  rw [Hmac.sign, Sha256.length_digest] at hsignature
  rw [encode, List.length_append, List.length_cons, signature, Hmac.sign, message,
    List.length_append, List.length_cons]
  rw [message] at hsignature
  omega

namespace RefreshBody

open Json (Literal skipSpace)
open Json.Mark

/-- The body of a request that asks for new tokens with a text for its refresh token. -/
def written (t : String) : Octets := (Json.record [(field, .ofText t)]).print

/-! ## Reading -/

theorem quoted_ofText (s : String) (rest : Octets) :
    quoted ((Literal.ofText s).flatMap Literal.printUnit ++ quote :: rest) = .ok (s, rest) := by
  rw [quoted, Literal.ofText, Literal.scan_ofOctets, ← Literal.ofText]
  simp only [Literal.text?_ofText]

theorem text_ofText (s : String) (rest : Octets) :
    text ((Literal.ofText s).print ++ rest) = .ok (s, rest) := by
  have hshape : (Literal.ofText s).print ++ rest
      = quote :: ((Literal.ofText s).flatMap Literal.printUnit ++ quote :: rest) := by
    simp [Literal.print]
  have hspace :
      skipSpace ((Literal.ofText s).print ++ rest) = (Literal.ofText s).print ++ rest := by
    rw [hshape, Json.skipSpace_cons (by decide)]
  rw [text, hspace, hshape]
  simp only [if_true, quoted_ofText]

theorem behindColon_colon (rest : Octets) : behindColon (colon :: rest) = .ok rest := by
  rw [behindColon, Json.skipSpace_cons (by decide)]
  simp only [if_true]

theorem member_field (s : String) (rest : Octets) :
    member none ((Literal.ofText field).flatMap Literal.printUnit
        ++ quote :: colon :: ((Literal.ofText s).print ++ rest))
      = .ok (some s, rest) := by
  rw [member, quoted_ofText]
  simp only [bind, Except.bind, if_true, Option.isSome_none, Bool.false_eq_true, if_false,
    behindColon_colon, text_ofText, pure, Except.pure]

theorem written_eq (t : String) :
    written t
      = openBrace :: quote :: ((Literal.ofText field).flatMap Literal.printUnit
          ++ quote :: colon :: ((Literal.ofText t).print ++ [closeBrace])) := by
  simp [written, Json.record, Json.print, Json.printMembers, Json.ofText, Literal.print]

theorem parse_written (t : String) : parse (written t) = .ok t := by
  rw [written_eq, parse, Json.skipSpace_cons (by decide)]
  simp only [if_true]
  rw [object, Json.skipSpace_cons (by decide)]
  simp only [if_true, List.length_cons, members, member_field,
    if_neg (show ¬quote = closeBrace by decide)]
  rfl

/-! ## Requests -/

variable {request : Request} {t : String}

theorem ofRequest_of_parse (hjson : isJson request.headers = true)
    (hbody : parse request.body = .ok t) (hlength : request.body.length ≤ longest) :
    ofRequest request = .ok t := by
  rw [ofRequest, hjson, if_neg (Nat.not_lt.mpr hlength), hbody]
  rfl

theorem ofRequest_of_longest_lt (hjson : isJson request.headers = true)
    (hlength : longest < request.body.length) : ofRequest request = .error .tooLarge := by
  rw [ofRequest, hjson, if_pos hlength]
  rfl

/-! ## Lengths of bodies -/

theorem length_written (t : String) :
    (written t).length = ((Literal.ofText t).flatMap Literal.printUnit).length + 20 := by
  have hfield : ((Literal.ofText field).flatMap Literal.printUnit).length = 13 := by decide
  rw [written_eq]
  simp only [List.length_cons, List.length_append, List.length_nil, Literal.print,
    List.cons_append, hfield]
  omega

theorem length_lt_written (t : String) : (Octets.ofText t).length < (written t).length := by
  obtain ⟨hle, -⟩ := Literal.length_flatMap_printUnit (Octets.ofText t)
  rw [length_written, Literal.ofText]
  omega

theorem length_written_le (t : String) :
    (written t).length ≤ 6 * (Octets.ofText t).length + 20 := by
  obtain ⟨-, hle⟩ := Literal.length_flatMap_printUnit (Octets.ofText t)
  rw [length_written, Literal.ofText]
  omega

/-- A token without permissions fits into a body, unless the name in it is very long. -/
theorem length_written_shown_le (s : TokenSettings) {c : Claims} (hnone : c.permissions = none)
    (hname : (Octets.ofText c.username).length ≤ 29000) :
    (written (Octets.shown (Token.encode s c))).length ≤ longest := by
  have htoken := Token.length_encode_le s hnone
  have hbody := length_written_le (Octets.shown (Token.encode s c))
  rw [Token.ofText_shown_encode] at hbody
  rw [longest]
  omega

end RefreshBody

end TrackerGate
