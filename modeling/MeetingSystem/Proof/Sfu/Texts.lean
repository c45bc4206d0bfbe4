import Mathlib.Data.List.TakeWhile
import MeetingSystem.Impl.Sfu.MediaIngress

/-!
# Keys made of text

The media plane keeps endpoints as text and builds table keys by joining
texts. What the rest of the development needs of them:

* `parseEndpoint_endpointKey`: an endpoint that was written as text is read
  back, unless its port is 0;
* `feedbackRouteKey_inj`: the key of a feedback route determines the endpoint
  and the SSRC;
* `rewrittenSsrc_ne_zero`: a route's SSRC is never 0.
-/

namespace MeetingSystem.Proof.Sfu

open MeetingSystem.Framework MeetingSystem.Impl.Sfu

/-! ## Numbers -/

theorem digit_notMem {c : Char} (h : c.isDigit = false) (n : Nat) : c ∉ Nat.toDigits 10 n := by
  intro hc
  have hd : c.isDigit := Nat.isDigit_of_mem_toDigits (by decide) (by decide) hc
  rw [h] at hd
  exact Bool.false_ne_true hd

theorem toDigits_inj {m n : Nat} (h : Nat.toDigits 10 m = Nat.toDigits 10 n) : m = n := by
  have := congrArg (fun l => Nat.ofDigitChars 10 l 0) h
  simpa using this

theorem toDigits_ne_nil (n : Nat) : Nat.toDigits 10 n ≠ [] :=
  List.ne_nil_of_length_pos Nat.length_toDigits_pos

theorem octet_toDigits (b : UInt8) : octet (Nat.toDigits 10 b.toNat) = some b := by
  have h : ∀ n : Fin 256, octet (Nat.toDigits 10 n.val) = some (UInt8.ofNat n.val) := by
    decide +kernel
  simpa using h ⟨b.toNat, b.toNat_lt⟩

theorem takeWhile_toDigits (n : Nat) :
    (Nat.toDigits 10 n).takeWhile Char.isDigit = Nat.toDigits 10 n := by
  rw [List.takeWhile_eq_self_iff]
  intro c hc
  exact Nat.isDigit_of_mem_toDigits (by decide) (by decide) hc

theorem isDigit_head (n : Nat) : ∃ c cs, Nat.toDigits 10 n = c :: cs ∧ c.isDigit := by
  obtain ⟨c, cs, h⟩ := List.exists_cons_of_ne_nil (toDigits_ne_nil n)
  refine ⟨c, cs, h, Nat.isDigit_of_mem_toDigits (b := 10) (n := n) (by decide) (by decide) ?_⟩
  rw [h]
  exact List.mem_cons_self

theorem not_isSpace {c : Char} (h : c.isDigit) : isSpace c = false := by
  have hc : 48 ≤ c.toNat ∧ c.toNat ≤ 57 := by
    simpa [Char.isDigit, UInt32.le_iff_toNat_le] using h
  have hne : c ≠ ' ' := by
    rintro rfl
    exact absurd hc (by decide)
  simp [isSpace, hne]
  omega

theorem strtoul_toDigits {n : Nat} (h : n < 2 ^ 64) : strtoul (Nat.toDigits 10 n) = n := by
  obtain ⟨c, cs, hcs, hc⟩ := isDigit_head n
  have hspace : (Nat.toDigits 10 n).dropWhile isSpace = Nat.toDigits 10 n := by
    rw [hcs]
    exact List.dropWhile_cons_of_neg (by simp [not_isSpace hc])
  have hsign : (Nat.toDigits 10 n).head? ≠ some '-' ∧ (Nat.toDigits 10 n).head? ≠ some '+' := by
    rw [hcs]
    constructor <;> rintro ⟨⟩ <;> exact absurd hc (by decide)
  simp only [strtoul, hspace, hsign.1, hsign.2, takeWhile_toDigits, Nat.ofDigitChars_ten_toDigits,
    or_self, if_false]
  exact if_neg (Nat.not_le.mpr h)

/-! ## Endpoints -/

theorem toList_host (e : Endpoint) :
    e.host.toList = Nat.toDigits 10 e.a.toNat ++ '.' :: (Nat.toDigits 10 e.b.toNat ++
      '.' :: (Nat.toDigits 10 e.c.toNat ++ '.' :: Nat.toDigits 10 e.d.toNat)) := by
  simp [Endpoint.host]

theorem toList_endpointKey (e : Endpoint) :
    (endpointKey e).toList = e.host.toList ++ ':' :: Nat.toDigits 10 e.port.toNat := by
  simp [endpointKey]

theorem host_notMem {c : Char} (hd : c.isDigit = false) (hc : c ≠ '.') (e : Endpoint) :
    c ∉ e.host.toList := by
  simp [toList_host, digit_notMem hd, hc]

theorem host_inj {e e' : Endpoint} (h : e.host = e'.host) :
    e.a = e'.a ∧ e.b = e'.b ∧ e.c = e'.c ∧ e.d = e'.d := by
  have hl := congrArg String.toList h
  rw [toList_host, toList_host] at hl
  have hdot (n : Nat) : '.' ∉ Nat.toDigits 10 n := digit_notMem (by decide) n
  obtain ⟨ha, hl⟩ := append_sep_inj (hdot _) (hdot _) hl
  obtain ⟨hb, hl⟩ := append_sep_inj (hdot _) (hdot _) hl
  obtain ⟨hc, hd⟩ := append_sep_inj (hdot _) (hdot _) hl
  exact ⟨UInt8.toNat_inj.mp (toDigits_inj ha), UInt8.toNat_inj.mp (toDigits_inj hb),
    UInt8.toNat_inj.mp (toDigits_inj hc), UInt8.toNat_inj.mp (toDigits_inj hd)⟩

theorem endpointKey_inj {e e' : Endpoint} (h : endpointKey e = endpointKey e') : e = e' := by
  have hl := congrArg String.toList h
  rw [toList_endpointKey, toList_endpointKey] at hl
  have hcolon (e : Endpoint) : ':' ∉ e.host.toList := host_notMem (by decide) (by decide) e
  obtain ⟨hhost, hport⟩ := append_sep_inj (hcolon e) (hcolon e') hl
  obtain ⟨ha, hb, hc, hd⟩ := host_inj (String.toList_inj.mp hhost)
  have hp : e.port = e'.port := UInt16.toNat_inj.mp (toDigits_inj hport)
  cases e
  cases e'
  simp_all

theorem endpointKey_ne_empty (e : Endpoint) : endpointKey e ≠ "" := by
  intro h
  have hl := congrArg String.toList h
  simp [toList_endpointKey] at hl

/-- A feedback key determines its endpoint and its SSRC. -/
theorem feedbackRouteKey_inj {e e' : Endpoint} {r r' : UInt32}
    (h : feedbackRouteKey e r = feedbackRouteKey e' r') : e = e' ∧ r = r' := by
  have hl := congrArg String.toList h
  simp only [feedbackRouteKey, String.toList_append, Nat.toString_eq_repr, Nat.toList_repr,
    List.append_assoc] at hl
  have hline (e : Endpoint) : '\n' ∉ (endpointKey e).toList := by
    simp [toList_endpointKey, host_notMem, digit_notMem]
  obtain ⟨hkey, hssrc⟩ := append_sep_inj (hline e) (hline e') hl
  exact ⟨endpointKey_inj (String.toList_inj.mp hkey), UInt32.toNat_inj.mp (toDigits_inj hssrc)⟩

theorem stripUdpScheme_endpointKey (e : Endpoint) :
    stripUdpScheme (endpointKey e) = endpointKey e := by
  obtain ⟨c, cs, hcs, hc⟩ := isDigit_head e.a.toNat
  have hl : ∃ cs', (endpointKey e).toList = c :: cs' := by
    rw [toList_endpointKey, toList_host, hcs]
    exact ⟨_, rfl⟩
  obtain ⟨cs', hl⟩ := hl
  have hne : c ≠ 'u' := by
    rintro rfl
    exact absurd hc (by decide)
  rw [stripUdpScheme, if_neg]
  rw [hl]
  simp [List.isPrefixOf, Ne.symm hne]

theorem inetPton_host (e : Endpoint) : inetPton e.host.toList = some (e.a, e.b, e.c, e.d) := by
  have hdot (n : Nat) : '.' ∉ Nat.toDigits 10 n := digit_notMem (by decide) n
  rw [inetPton, toList_host, splitAll_append _ (hdot _), splitAll_append _ (hdot _),
    splitAll_append _ (hdot _), splitAll_of_notMem (hdot _)]
  simp [octet_toDigits]

/-- An endpoint's text is read back as the endpoint. -/
theorem parseEndpoint_endpointKey (e : Endpoint) :
    parseEndpoint (endpointKey e) = if e.port = 0 then none else some e := by
  have hsplit : splitLast ':' (endpointKey e).toList =
      some (e.host.toList, Nat.toDigits 10 e.port.toNat) := by
    rw [toList_endpointKey]
    exact splitLast_append _ (digit_notMem (by decide) _)
  have hhost : e.host.toList ≠ [] := by
    simp [toList_host]
  have hport : (strtoul (Nat.toDigits 10 e.port.toNat)).toUInt16 = e.port := by
    rw [strtoul_toDigits (by have := e.port.toNat_lt; omega)]
    exact UInt16.ofNat_toNat
  rw [parseEndpoint, if_neg (endpointKey_ne_empty e), stripUdpScheme_endpointKey, hsplit]
  simp only [hhost, toDigits_ne_nil, or_self, if_false, inetPton_host, hport]

/-! ## Rewritten SSRCs -/

theorem eq_xor_of_xor_eq {a c d : UInt32} (h : a ^^^ c = d) : a = d ^^^ c := by
  rw [← h, UInt32.xor_assoc, UInt32.xor_self, UInt32.xor_zero]

theorem makeRouteRewriteSsrc_ne_zero (m u : String) (source : UInt32) (video : Bool) :
    makeRouteRewriteSsrc m u source video ≠ 0 := by
  simp only [makeRouteRewriteSsrc]
  generalize fnv1a _ &&& 0x7FFFFFFF = hash
  generalize (if hash = 0 ∨ hash = source then hash ^^^ 0x5A5A5A5A else hash) = hash'
  split
  · decide
  · assumption

/-- The one value whose later change to 0 would not be repaired is not
produced for the source it would be repaired with. -/
theorem source_ne_of_rewrite {m u : String} {source : UInt32} {video : Bool}
    (h : makeRouteRewriteSsrc m u source video = 0x01010101) : source ≠ 0x01010101 := by
  simp only [makeRouteRewriteSsrc] at h
  revert h
  generalize fnv1a _ &&& 0x7FFFFFFF = hash
  intro h
  split at h
  · rename_i hcase
    split at h
    · exact absurd h (by decide)
    · have hhash : hash = 0x5B5B5B5B := eq_xor_of_xor_eq h
      rcases hcase with hzero | hsource
      · exact absurd (hhash.symm.trans hzero) (by decide)
      · rw [← hsource, hhash]
        decide
  · rename_i hcase
    split at h
    · exact absurd h (by decide)
    · intro hsource
      exact hcase (.inr (h.trans hsource.symm))

theorem rewrittenSsrc_ne_zero {source : UInt32} (h : source ≠ 0) (m : String) (sub : Subscriber)
    (video : Bool) (count : Nat) : MediaIngress.rewrittenSsrc m sub source video count ≠ 0 := by
  simp only [MediaIngress.rewrittenSsrc]
  generalize (if video then sub.videoSsrc else sub.audioSsrc) = preferred
  split
  · split
    · split
      · rename_i hzero
        have hone : makeRouteRewriteSsrc m sub.userId source video = 0x01010101 := by
          simpa using eq_xor_of_xor_eq hzero
        intro hsource
        exact source_ne_of_rewrite hone (by simpa using eq_xor_of_xor_eq hsource)
      · assumption
    · have hne := makeRouteRewriteSsrc_ne_zero m sub.userId source video
      rw [if_neg hne]
      exact hne
  · split
    · assumption
    · exact h

end MeetingSystem.Proof.Sfu
