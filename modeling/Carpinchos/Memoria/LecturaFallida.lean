import Carpinchos.Memoria.Cambios
import Carpinchos.Memoria.SwampFiel

/-!
# A page that SWAmP refuses to give back

`swampear_pagina` gives the frame of the victim to the page that is brought in before it
asks SWAmP for it. When SWAmP refuses, the access returns -1 and the frame stays recorded
as holding a page that was never read.
-/

namespace Carpinchos.Memoria

open Outcome Estado Runs

variable {E : Entorno} {s s' : Estado} {p : ℕ}

section Definiciones

/-- The bits and the TLB agree with the frames: a page has its bit set when exactly one
frame holds it, and every entry names the frame of its page. -/
structure TablasDeAcuerdo (s : Estado) : Prop where
  presencia : ∀ c ∈ s.carpinchosList, ∀ q ∈ c.paginas,
    (s.descriptor q).bitPresencia = true ↔ (s.marcosList.filter (esMarcoDe q s)).length = 1
  tlb : ∀ t ∈ s.tlbList, t.pid ≠ 0 →
    ∃ m ∈ s.marcosList, m.marco = t.marco ∧ m.pid = t.pid ∧ m.pagina = t.pagina

/-- Between the two states SWAmP was asked for the page, last of all, and refused it. -/
def LecturaRechazada (E : Entorno) (pid pagina : ℤ) (s s' : Estado) : Prop :=
  ∃ historia, s.mensajes <+: historia ∧ s'.mensajes = historia ++ [.lectura pid pagina] ∧
    E.leerSwamp historia pid pagina = none

end Definiciones

section Acceso

theorem traerPagina_swampear {marco : Option ℤ} (h : traerPagina E p s = .ok (marco, s'))
    (htlb : paginaIsInTlb p s = false) (hcache : paginaIsInCache p s = false) :
    ∃ s₁ k s₂ s₃ desc, tlbHit p s = .ok s₁ ∧
      swampearPagina E (s₁.descriptor p).carpinchoPid (s₁.descriptor p).pagina s₁ = .ok (k, s₂) ∧
      actualizarTlb E p k s₂ = .ok s₃ ∧ s' = { s₃ with descriptor := desc } ∧
      ∀ q, (desc q).nombre = (s₃.descriptor q).nombre := by
  obtain ⟨s₁, k, s₃, desc, hrefrescar, hobtener, heq, hnombres⟩ := traerPagina_cases h
  rw [htlb] at hrefrescar
  cases hrefrescar
  unfold obtenerMarcoParaPagina at hobtener
  rw [htlb] at hobtener
  simp only [Bool.false_eq_true, if_false] at hobtener
  obtain ⟨⟨k', s₂⟩, hsin, hobtener⟩ := bind_eq_ok.1 hobtener
  obtain ⟨s₃', hactualizar, hobtener⟩ := bind_eq_ok.1 hobtener
  cases hobtener
  unfold obtenerMarcoSinTlb at hsin
  rw [hcache] at hsin
  simp only [Bool.false_eq_true, if_false] at hsin
  obtain ⟨s₁, hhit, hsin⟩ := bind_eq_ok.1 hsin
  exact ⟨s₁, _, s₂, _, desc, hhit, hsin, hactualizar, heq, hnombres⟩

end Acceso

section Rechazo

variable {pid pagina k : ℤ} {v : ℕ}

/-- A refused page leaves its name in the frame of the victim. -/
theorem swampearPagina_rechazada (h : swampearPagina E pid pagina s = .ok (k, s'))
    (hr : LecturaRechazada E pid pagina s s') :
    k = -1 ∧ (∃ m ∈ s'.marcosList, m.isFree = false ∧ m.pid = pid ∧ m.pagina = pagina) ∧
      ∀ q, (s'.descriptor q).nombre = (s.descriptor q).nombre := by
  obtain ⟨historia, hprefijo, hmensajes, hnone⟩ := hr
  obtain ⟨⟨v, s₁⟩, helegir, h⟩ := bind_eq_ok.1 h
  obtain ⟨desc, car, ptr, rfl, hsolo, -⟩ := elegirPaginaASwampear_cases helegir
  dsimp only at h
  split at h
  · obtain ⟨⟨m, s₂⟩, hdesalojar, h⟩ := bind_eq_ok.1 h
    obtain ⟨cache, mensajes, marcos, rfl, ⟨u, hu, hum⟩, hocupado⟩ :=
      desalojarPagina_cases hdesalojar
    obtain ⟨estado, cache', heq, hiff⟩ := lecturaSwamp_cases E pid pagina m { s with
      cache := cache, mensajes := mensajes, marcosList := marcos, carpinchosList := car
      algoritmStackPointer := ptr, tlbList := sinMarco m s.tlbList
      descriptor := Function.update desc v { desc v with bitPresencia := false, marco := 0 } }
    simp only [heq] at h
    cases h
    obtain rfl := List.append_cancel_right hmensajes
    refine ⟨?_, ⟨u, hu, hocupado u hu hum⟩, fun q => ?_⟩
    · rw [hiff.2 hnone]
      rfl
    · apply Eq.trans (nombre_update (d := desc) _ q) (hsolo.nombre q)
      rfl
  · cases h
    have hlen := hprefijo.length_le
    rw [hmensajes] at hlen
    simp at hlen

/-- When SWAmP refuses a page during an access, a frame is left recorded as holding it. -/
theorem lectura_rechazada_ocupa_marco (h : TablasDeAcuerdo s)
    (hpid : 0 < (s.descriptor p).carpinchoPid) (hfuera : ∀ m ∈ s.marcosList, ¬ esMarcoDe p s m)
    (hacceso : Accede E p s s')
    (hr : LecturaRechazada E (s.descriptor p).carpinchoPid (s.descriptor p).pagina s s') :
    ∃ m ∈ s'.marcosList, m.isFree = false ∧ esMarcoDe p s' m := by
  have hcache : paginaIsInCache p s = false := by
    rw [paginaIsInCache, List.any_eq_false]
    exact hfuera
  have htlb : paginaIsInTlb p s = false := by
    rw [Bool.eq_false_iff]
    intro hin
    obtain ⟨t, ht, heq, hpagina⟩ := paginaIsInTlb_iff.1 hin
    obtain ⟨m, hm, -, hmpid, hmpagina⟩ := h.tlb t ht (heq ▸ hpid.ne')
    exact hfuera m hm (decide_eq_true ⟨hmpid.trans heq, hmpagina.trans hpagina⟩)
  obtain ⟨marco, s₀, cache, desc, ts, htraer, rfl, hnombres⟩ := hacceso.traer
  obtain ⟨s₁, k, s₂, s₃, desc₃, hhit, hswap, hactualizar, rfl, hnombres₃⟩ :=
    traerPagina_swampear htraer htlb hcache
  obtain ⟨c, -, rfl⟩ := tlbHit_cases hhit
  have hr₂ : LecturaRechazada E (s.descriptor p).carpinchoPid (s.descriptor p).pagina s s₂ := by
    obtain ⟨tlb, fifo, ts, desc, ramas, rfl⟩ := actualizarTlb_cases hactualizar
    exact hr
  obtain ⟨rfl, ⟨m, hm, hocupado, hmpid, hmpagina⟩, hnombres₂⟩ := swampearPagina_rechazada hswap hr₂
  cases hactualizar
  have hnombre : (desc p).nombre = (s.descriptor p).nombre :=
    (hnombres p).trans ((hnombres₃ p).trans (hnombres₂ p))
  simp only [Pagina.nombre, Prod.mk.injEq] at hnombre
  refine ⟨m, hm, hocupado, ?_⟩
  rw [esMarcoDe, hnombre.1, hnombre.2]
  exact decide_eq_true ⟨hmpid, hmpagina⟩

/-- Two frames, and a SWAmP that gives no page back. -/
def entornoMudo : Entorno :=
  { entornoFiel (configChica .lru .fifo) with
    leerSwamp := fun _ _ _ => none
    leerSwamp_length := fun _ _ _ _ h => absurd h (Option.some_ne_none _).symm }

def leeDosVeces : Except Falla
    (Estado × (Option (List UInt8) × Estado) × (Option (List UInt8) × Estado)) := do
  let (_, s) ← run (paso entornoMudo)
    [.createCarpincho 1, .createPagina 1, .createPagina 1, .createPagina 1]
    (inicializarMemoria (configChica .lru .fifo) fun _ => paginaNueva 0 0)
  let r ← leerEnPagina entornoMudo 0 2 0 s
  let r' ← leerEnPagina entornoMudo 0 2 0 r.2
  .ok (s, r, r')

def primeraAfuera (s : Estado) : Prop :=
  (∀ c ∈ s.carpinchosList, ∀ q ∈ c.paginas,
    (s.descriptor q).bitPresencia = true ↔ (s.marcosList.filter (esMarcoDe q s)).length = 1) ∧
  (∀ t ∈ s.tlbList, t.pid ≠ 0 →
    ∃ m ∈ s.marcosList, m.marco = t.marco ∧ m.pid = t.pid ∧ m.pagina = t.pagina) ∧
  (s.descriptor 0).carpinchoPid = 1 ∧ (s.descriptor 0).pagina = 1 ∧
  ∀ m ∈ s.marcosList, ¬ esMarcoDe 0 s m

instance (s : Estado) : Decidable (primeraAfuera s) := inferInstanceAs (Decidable (_ ∧ _))

/-- The last request of the first read is the page. -/
def pidePagina (s s' : Estado) : Prop :=
  s.mensajes <+: s'.mensajes.dropLast ∧ s'.mensajes = s'.mensajes.dropLast ++ [.lectura 1 1]

instance (s s' : Estado) : Decidable (pidePagina s s') := inferInstanceAs (Decidable (_ ∧ _))

theorem leeDosVeces_ok : ∃ s s₁ s₂,
    leerEnPagina entornoMudo 0 2 0 s = .ok (none, s₁) ∧
      leerEnPagina entornoMudo 0 2 0 s₁ = .ok (some [guion, guion], s₂) ∧
      primeraAfuera s ∧ pidePagina s s₁ ∧ s₂.mensajes = s₁.mensajes ∧
      ∃ m ∈ s₁.marcosList, esMarcoDe 0 s₁ m := by
  have htest : returns leeDosVeces (fun r => decide (primeraAfuera r.1 ∧ pidePagina r.1 r.2.1.2 ∧
      r.2.2.2.mensajes = r.2.1.2.mensajes ∧
      (∃ m ∈ r.2.1.2.marcosList, esMarcoDe 0 r.2.1.2 m) ∧
      r.2.1.1 = none ∧ r.2.2.1 = some [guion, guion])) = true := by decide +kernel
  obtain ⟨r, hr, htest⟩ := exists_of_returns htest
  obtain ⟨hafuera, hpide, hmensajes, hmarco, hnone, hsome⟩ := of_decide_eq_true htest
  obtain ⟨⟨rs, s⟩, -, hr⟩ := bind_eq_ok.1 hr
  obtain ⟨⟨c₁, s₁⟩, h₁, hr⟩ := bind_eq_ok.1 hr
  obtain ⟨⟨c₂, s₂⟩, h₂, hr⟩ := bind_eq_ok.1 hr
  cases hr
  cases hnone
  cases hsome
  exact ⟨s, s₁, s₂, h₁, h₂, hafuera, hpide, hmensajes, hmarco⟩

theorem lectura_rechazada_ocupa_marco_primera : ∃ s s',
    Accede entornoMudo 0 s s' ∧ LecturaRechazada entornoMudo 1 1 s s' ∧
      ∃ m ∈ s'.marcosList, m.isFree = false ∧ esMarcoDe 0 s' m := by
  obtain ⟨s, s₁, s₂, h₁, -, ⟨hpresencia, htlb, hpid, hpagina, hfuera⟩, hpide, -, -⟩ :=
    leeDosVeces_ok
  have hacceso : Accede entornoMudo 0 s s₁ := Or.inl ⟨2, 0, none, h₁⟩
  have hr : LecturaRechazada entornoMudo 1 1 s s₁ := ⟨_, hpide.1, hpide.2, rfl⟩
  refine ⟨s, s₁, hacceso, hr, ?_⟩
  apply lectura_rechazada_ocupa_marco ⟨hpresencia, htlb⟩ (by rw [hpid]; decide) hfuera hacceso
  rw [hpid, hpagina]
  exact hr

/-- After a read that fails the page is recorded as resident, and the next read of it
returns what the frame was filled with when it was emptied, without asking SWAmP. -/
theorem lectura_rechazada_se_lee : ∃ s s₁ s₂,
    TablasDeAcuerdo s ∧ (∀ m ∈ s.marcosList, ¬ esMarcoDe 0 s m) ∧
      leerEnPagina entornoMudo 0 2 0 s = .ok (none, s₁) ∧
      LecturaRechazada entornoMudo (s.descriptor 0).carpinchoPid (s.descriptor 0).pagina s s₁ ∧
      (∃ m ∈ s₁.marcosList, esMarcoDe 0 s₁ m) ∧
      leerEnPagina entornoMudo 0 2 0 s₁ = .ok (some [guion, guion], s₂) ∧
      s₂.mensajes = s₁.mensajes := by
  obtain ⟨s, s₁, s₂, h₁, h₂, ⟨hpresencia, htlb, hpid, hpagina, hfuera⟩, hpide, hmensajes, hmarco⟩ :=
    leeDosVeces_ok
  refine ⟨s, s₁, s₂, ⟨hpresencia, htlb⟩, hfuera, h₁, ?_, hmarco, h₂, hmensajes⟩
  rw [hpid, hpagina]
  exact ⟨_, hpide.1, hpide.2, rfl⟩

end Rechazo

end Carpinchos.Memoria
