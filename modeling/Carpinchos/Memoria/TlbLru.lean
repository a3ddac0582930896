import Carpinchos.Library.Replacement
import Carpinchos.Memoria.PasoTlb
import Carpinchos.Memoria.SwampFiel

/-!
# Replacement of TLB entries by last use

A load stamps its entry from the counter of the TLB, and a hit from the counter of the
frames. As long as every stamp is above those of the other entries in use, the order of the
stamps is the order of the last loads and hits, and the entry that is replaced is the one
that was loaded or hit the longest ago.
-/

namespace Carpinchos.Memoria

open Outcome Runs Replacement

variable {E : Entorno} {s s' : Estado} {op : Operacion} {o : Resultado}

def estampaNueva (u : ℤ × ℤ) (s : Estado) : ℕ :=
  if enTlb u s then s.contadorTimestamp + 1 else s.contadorTimestampTlb

/-- The stamp that a call puts is above those of the other entries in use. -/
def estampaMayor (s : Estado) (op : Operacion) : Bool :=
  match usoEn s op with
  | none => true
  | some u => (ocupadas s).all fun t => t.nombre = u || t.timestamp < estampaNueva u s

def tocada (s : Estado) (op : Operacion) (s' : Estado) : List (ℤ × ℤ) :=
  match usoEn s op with
  | none => []
  | some u => if enTlb u s' then [u] else []

/-- The pages whose entries are loaded or hit in a run, in order. -/
def tocadas (E : Entorno) : List Operacion → Estado → List (ℤ × ℤ) :=
  history (paso E) tocada

/-- The entries in use are stamped in the order of their last loads and hits. -/
def Estampadas (hs : List (ℤ × ℤ)) (s : Estado) : Prop :=
  RankedByUse Tlb.nombre Tlb.timestamp (ocupadas s) hs

theorem estampa_lt {u : ℤ × ℤ} (hg : estampaMayor s op = true) (hu : usoEn s op = some u)
    {t : Tlb} (ht : t ∈ ocupadas s) (hne : t.nombre ≠ u) : t.timestamp < estampaNueva u s := by
  unfold estampaMayor at hg
  simp only [hu, List.all_eq_true] at hg
  simpa [hne] using hg t ht

theorem tocadas_paso {hs : List (ℤ × ℤ)} (hlru : E.config.algoritmoReemplazoTlb = .lru)
    (h : Marcha E s) (hr : Estampadas hs s) (hg : estampaMayor s op = true)
    (hpaso : paso E op s = .ok (o, s')) :
    Estampadas (hs ++ tocada s op s') s' := by
  cases hu : usoEn s op with
  | none =>
    obtain ⟨pid, rfl, rfl⟩ := usoEn_none hpaso hu
    rw [tocada, hu, List.append_nil, Estampadas, ocupadas_createCarpincho]
    exact hr
  | some u =>
    have hmenor := fun t => estampa_lt (t := t) hg hu
    obtain ⟨hpos, hefecto⟩ := h.efecto hpaso hu
    cases hefecto with
    | @acierto t ht hnombre htlb hfifo =>
      have hin : enTlb u s = true := enTlb_iff.2 ⟨t, ht, hnombre⟩
      have htlb : s'.tlbList = sellar t.entrada (s.contadorTimestamp + 1) s.tlbList := by
        rcases htlb with ⟨hfifo, -⟩ | ⟨-, htlb⟩
        · rw [hlru] at hfifo
          cases hfifo
        · exact htlb
      have hviva : t ∈ ocupadas s := by
        refine mem_ocupadas.2 ⟨ht, ?_⟩
        rw [show t.pid = u.1 from congrArg Prod.fst hnombre]
        exact hpos.ne'
      have hsellada : ({ t with timestamp := s.contadorTimestamp + 1 } : Tlb) ∈ s'.tlbList := by
        rw [htlb]
        exact List.mem_map.2 ⟨t, ht, if_pos rfl⟩
      have htocada : tocada s op s' = [u] := by
        simp only [tocada, hu]
        exact if_pos (enTlb_iff.2 ⟨_, hsellada, hnombre⟩)
      rw [htocada, ← hnombre]
      apply hr.use (e := { t with timestamp := s.contadorTimestamp + 1 })
      · intro a ha
        obtain ⟨hmem, hpid⟩ := mem_ocupadas.1 ha
        rw [htlb] at hmem
        rcases mem_sellar hmem with ⟨w, hw, hentrada, rfl⟩ | ⟨hmem, hentrada⟩
        · obtain rfl := List.inj_on_of_nodup_map h.nodup hw ht hentrada
          exact Or.inl rfl
        · have ha' := mem_ocupadas.2 ⟨hmem, hpid⟩
          refine Or.inr ⟨ha', fun heq => hentrada ?_⟩
          rw [hr.unique a ha' t hviva heq]
      · intro a _ b _ _ _ hlt
        exact hlt
      · intro a _ ha hne
        have hlt := hmenor a ha (fun heq => hne (heq.trans hnombre.symm))
        rwa [estampaNueva, hin, if_pos rfl] at hlt
    | fallo hno hpor htlb hfifo =>
      have hsin : enTlb u s' = false := by
        rw [enTlb, htlb]
        exact hpor.sin_entrada hpos.ne' hno
      have htocada : tocada s op s' = [] := by
        simp only [tocada, hu]
        exact if_neg (Bool.eq_false_iff.1 hsin)
      rw [htocada, List.append_nil]
      apply hr.subset
      intro a ha
      rw [mem_ocupadas, htlb, ← mem_ocupadas] at ha
      exact hpor.viva ha
    | @carga s₁ e l marco hno hantes hpor heleccion htlb =>
      have htocada : tocada s op s' = [u] := by
        simp only [tocada, hu]
        exact if_pos (enTlb_cargar heleccion.mem htlb)
      rw [htocada]
      apply hr.use (e := ⟨e.entrada, u.1, u.2, marco, s.contadorTimestampTlb⟩)
      · intro a ha
        rcases ocupadas_cargar hno hpor heleccion.perm htlb ha with heq | ⟨ha, hne, -⟩
        · exact Or.inl heq
        · exact Or.inr ⟨hpor.viva ha, hne⟩
      · intro a _ b _ _ _ hlt
        exact hlt
      · intro a _ ha hne
        have hlt := hmenor a ha hne
        rwa [estampaNueva, hno, if_neg Bool.false_ne_true] at hlt

theorem estampadas_inicial (cfg : Config) (basura : ℕ → Pagina) :
    Estampadas [] (inicializarMemoria cfg basura) := by
  rw [Estampadas, ocupadas_inicial]
  exact .nil

/-- TLB LRU. In a run in which every stamp is above those of the other entries in use, an
entry is replaced only when none is empty, and it is the one whose last load or hit is the
earliest of the run. -/
theorem tlbLru_exacto {E : Entorno} (hlru : E.config.algoritmoReemplazoTlb = .lru)
    (basura : ℕ → Pagina) {ops : List Operacion} (hops : ∀ op ∈ ops, Nucleo.Admisible op)
    {s s' : Estado} {op : Operacion} {o : Resultado} {t : Tlb}
    (h : Reaches (paso E) (fun s op => estampaMayor s op = true)
      (inicializarMemoria E.config basura) ops s)
    (hpaso : paso E op s = .ok (o, s')) (ht : Reemplazada s s' t) :
    (∀ w ∈ s.tlbList, w.pid ≠ 0) ∧ ∀ w ∈ s.tlbList, w ≠ t →
      lastUse t.nombre (tocadas E ops (inicializarMemoria E.config basura)) <
        lastUse w.nombre (tocadas E ops (inicializarMemoria E.config basura)) := by
  have hstep : ∀ hs s op o s', Marcha E s ∧ Estampadas hs s →
      (Nucleo.Admisible op ∧ estampaMayor s op = true) → paso E op s = .ok (o, s') →
      Marcha E s' ∧ Estampadas (hs ++ tocada s op s') s' := by
    intro hs s op o s' ⟨hm, hr⟩ ⟨hadm, hg⟩ hpaso
    exact ⟨hm.llevada hadm hpaso, tocadas_paso hlru hm hr hg hpaso⟩
  obtain ⟨hm, hr⟩ := (h.and_mem hops).history_invariant hstep
    ⟨marcha_inicial E basura, estampadas_inicial E.config basura⟩
  obtain ⟨hllena, l, heleccion⟩ := hm.reemplazada hpaso ht
  refine ⟨hllena, fun w hw hne => ?_⟩
  have hviva : ∀ w ∈ s.tlbList, w ∈ ocupadas s := fun w hw => mem_ocupadas.2 ⟨hw, hllena w hw⟩
  have hminima : ∀ a ∈ ocupadas s, t.timestamp ≤ a.timestamp := by
    intro a ha
    generalize s'.tlbFifoPointer = fifo at heleccion
    cases heleccion with
    | libre hlibre => exact absurd (by simpa using List.find?_some hlibre) (hllena t ht.1)
    | lru _ _ _ _ hminima => exact hminima a (mem_ocupadas.1 ha).1
    | fifo hfifo _ _ =>
      rw [hlru] at hfifo
      cases hfifo
  exact hr.lowest (hviva t ht.1) hminima (hviva w hw) hne

def configTlbLru : Config :=
  { configHeap with
    algoritmoReemplazoTlb := .lru
    cantidaEntradasTlb := 2 }

/-- The second of two pages is hit, and a third one takes the entry of the first. -/
theorem tlbLru_exacto_tercera_pagina :
    ∃ s s' o t, Reaches (paso (entornoFiel configTlbLru))
        (fun s op => estampaMayor s op = true)
        (inicializarMemoria configTlbLru fun _ => paginaNueva 0 0)
        [.createCarpincho 1, .createPagina 1, .createPagina 1, .leerEnPagina 1 2 1 0] s ∧
      paso (entornoFiel configTlbLru) (.createPagina 1) s = .ok (o, s') ∧ Reemplazada s s' t ∧
      t.nombre = (1, 1) ∧ ∀ w ∈ s.tlbList, w ≠ t →
        lastUse t.nombre (tocadas (entornoFiel configTlbLru)
          [.createCarpincho 1, .createPagina 1, .createPagina 1, .leerEnPagina 1 2 1 0]
          (inicializarMemoria configTlbLru fun _ => paginaNueva 0 0)) <
        lastUse w.nombre (tocadas (entornoFiel configTlbLru)
          [.createCarpincho 1, .createPagina 1, .createPagina 1, .leerEnPagina 1 2 1 0]
          (inicializarMemoria configTlbLru fun _ => paginaNueva 0 0)) := by
  have hcorrida : (guardedRun (paso (entornoFiel configTlbLru)) estampaMayor
      [.createCarpincho 1, .createPagina 1, .createPagina 1, .leerEnPagina 1 2 1 0]
      (inicializarMemoria configTlbLru fun _ => paginaNueva 0 0)).any (fun s =>
        returns (paso (entornoFiel configTlbLru) (.createPagina 1) s) fun r =>
          s.tlbList.any fun t => decide (Reemplazada s r.2 t) && decide (t.nombre = (1, 1))) =
        true := by
    decide +kernel
  obtain ⟨s, hs, hpaso⟩ := (Option.any_eq_true _ _).1 hcorrida
  obtain ⟨r, hr, hreemplazo⟩ := exists_of_returns hpaso
  obtain ⟨t, -, ht⟩ := List.any_eq_true.1 hreemplazo
  rw [Bool.and_eq_true, decide_eq_true_iff, decide_eq_true_iff] at ht
  have hreaches := reaches_of_guardedRun hs
  exact ⟨s, r.2, r.1, t, hreaches, hr, ht.1, ht.2,
    (tlbLru_exacto rfl _ (by simp [Nucleo.Admisible]) hreaches hr ht.1).2⟩

/-- A page is hit twice, so its stamp is above those of the loads that follow: the fourth
page takes the entry of the third, although the first was hit before the third was loaded. -/
theorem estampas_de_dos_contadores :
    ¬ ∀ (ops : List Operacion) (r : List Resultado × Estado) (op : Operacion)
        (r' : Resultado × Estado) (t : Tlb),
      run (paso (entornoFiel configTlbLru)) ops
        (inicializarMemoria configTlbLru fun _ => paginaNueva 0 0) = .ok r →
      paso (entornoFiel configTlbLru) op r.2 = .ok r' → Reemplazada r.2 r'.2 t →
      ∀ w ∈ r.2.tlbList, w ≠ t →
        lastUse t.nombre (tocadas (entornoFiel configTlbLru) ops
          (inicializarMemoria configTlbLru fun _ => paginaNueva 0 0)) <
        lastUse w.nombre (tocadas (entornoFiel configTlbLru) ops
          (inicializarMemoria configTlbLru fun _ => paginaNueva 0 0)) := by
  intro hclaim
  have hcorrida : returns (run (paso (entornoFiel configTlbLru)) [.createCarpincho 1,
      .createPagina 1, .createPagina 1, .leerEnPagina 1 1 1 0, .leerEnPagina 1 1 1 0,
      .createPagina 1] (inicializarMemoria configTlbLru fun _ => paginaNueva 0 0)) (fun r =>
        returns (paso (entornoFiel configTlbLru) (.createPagina 1) r.2) fun r' =>
          r.2.tlbList.any fun t => r.2.tlbList.any fun w =>
            decide (Reemplazada r.2 r'.2 t ∧ t.nombre = (1, 3) ∧ w.nombre = (1, 1))) = true := by
    decide +kernel
  obtain ⟨r, hr, hpaso⟩ := exists_of_returns hcorrida
  obtain ⟨r', hr', hreemplazo⟩ := exists_of_returns hpaso
  obtain ⟨t, -, hreemplazo⟩ := List.any_eq_true.1 hreemplazo
  obtain ⟨w, hw, hreemplazo⟩ := List.any_eq_true.1 hreemplazo
  obtain ⟨ht, hnombre, hnombre'⟩ := of_decide_eq_true hreemplazo
  have hne : w ≠ t := by
    rintro rfl
    rw [hnombre] at hnombre'
    cases hnombre'
  have hlt := hclaim _ r _ r' t hr hr' ht w hw hne
  have htocadas : tocadas (entornoFiel configTlbLru) [.createCarpincho 1, .createPagina 1,
      .createPagina 1, .leerEnPagina 1 1 1 0, .leerEnPagina 1 1 1 0, .createPagina 1]
      (inicializarMemoria configTlbLru fun _ => paginaNueva 0 0) =
        [(1, 1), (1, 2), (1, 1), (1, 1), (1, 3)] := by
    decide +kernel
  rw [htocadas, hnombre, hnombre'] at hlt
  exact absurd hlt (by decide)

end Carpinchos.Memoria
