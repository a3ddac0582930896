import Carpinchos.Memoria.Coherencia

/-!
# Paged memory refines one flat array per page

Under LRU every victim is sent to SWAmP. If SWAmP gives back what it was sent, each
page behaves as an array of bytes of its own, whatever is evicted in between: the
frame of a page in memory holds its array, and otherwise its array is the content
last sent to SWAmP.
-/

namespace Carpinchos.Memoria

open Outcome Bytes Replacement Runs

/-- The bytes of every page, by pid, number and offset. -/
abbrev Plana := ℤ × ℤ → Mem

namespace Plana

def vacia : Plana := fun _ _ => guion

def tras (op : Operacion) (f : Plana) : Plana :=
  match op with
  | .escribirEnPagina pid pagina buffer offset =>
    Function.update f (pid, pagina) (copy (f (pid, pagina)) offset buffer)
  | _ => f

/-- A read returns the bytes of its page, and a write succeeds. -/
def Responde (op : Operacion) (f : Plana) (r : Resultado) : Prop :=
  match op with
  | .leerEnPagina pid pagina tamanio offset =>
    r = .bytes (some (slice (f (pid, pagina)) offset tamanio))
  | .escribirEnPagina .. => r = .codigo 0
  | _ => True

end Plana

/-- Accesses stay inside their page. -/
def EnPagina (tamanioPagina : ℕ) : Operacion → Prop
  | .leerEnPagina _ _ tamanio offset => offset + tamanio ≤ tamanioPagina
  | .escribirEnPagina _ _ buffer offset => offset + buffer.length ≤ tamanioPagina
  | _ => True

namespace Nucleo

variable {π : Parametros} {n n' : Nucleo} {f : Plana} {pid numero : ℤ} {p v k : ℕ}

section Relacion

def Guarda (π : Parametros) (n : Nucleo) (f : Plana) (k : ℕ) (nombre : ℤ × ℤ) : Prop :=
  ∀ o, o < π.tamanioPagina → n.cache (k * π.tamanioPagina + o) = f nombre o

def Vacio (π : Parametros) (n : Nucleo) (k : ℕ) : Prop :=
  ∀ o, o < π.tamanioPagina → n.cache (k * π.tamanioPagina + o) = guion

def Enviada (π : Parametros) (n : Nucleo) (f : Plana) (nombre : ℤ × ℤ) : Prop :=
  ultimaEscritura nombre.1 nombre.2 n.mensajes = some (slice (f nombre) 0 π.tamanioPagina)

/-- The array of every page is in its frame or was the last sent to SWAmP. -/
structure Contenida (π : Parametros) (n : Nucleo) (f : Plana) : Prop where
  residente : ∀ k p, n.marcos k = some p → n.Guarda π f k (n.nombre p)
  libre : ∀ k, k < π.cantidadMarcos → n.marcos k = none → n.Vacio π k
  ausente : ∀ p, n.existe p → (∀ k, n.marcos k ≠ some p) → n.Enviada π f (n.nombre p)
  nueva : ∀ nombre, (∀ p, n.existe p → n.nombre p ≠ nombre) → ∀ o, f nombre o = guion

/-- The same, with the page `p` given the empty frame `k`. -/
structure Preparada (π : Parametros) (p k : ℕ) (n : Nucleo) (f : Plana) : Prop where
  marco : n.marcos k = some p
  vacio : n.Vacio π k
  unico : ∀ j, n.marcos j = some p → j = k
  residente : ∀ j q, q ≠ p → n.marcos j = some q → n.Guarda π f j (n.nombre q)
  libre : ∀ j, j < π.cantidadMarcos → n.marcos j = none → n.Vacio π j
  ausente : ∀ q, n.existe q → (q = p ∨ ∀ j, n.marcos j ≠ some q) → n.Enviada π f (n.nombre q)
  nueva : ∀ nombre, (∀ q, n.existe q → n.nombre q ≠ nombre) → ∀ o, f nombre o = guion

theorem Contenida.of_campos (h : n.Contenida π f) (hcache : n'.cache = n.cache)
    (hmarcos : n'.marcos = n.marcos) (hnombre : n'.nombre = n.nombre)
    (hmensajes : n'.mensajes = n.mensajes) (hexiste : ∀ q, n'.existe q ↔ n.existe q) :
    n'.Contenida π f := by
  refine ⟨?_, ?_, ?_, ?_⟩
  · intro k p hk
    rw [hmarcos] at hk
    rw [Guarda, hcache, hnombre]
    exact h.residente k p hk
  · intro k hlt hk
    rw [hmarcos] at hk
    rw [Vacio, hcache]
    exact h.libre k hlt hk
  · intro p hp hfuera
    rw [hmarcos] at hfuera
    rw [Enviada, hmensajes, hnombre]
    exact h.ausente p ((hexiste p).1 hp) hfuera
  · intro nombre hno
    rw [hnombre] at hno
    exact h.nueva nombre fun p hp => hno p ((hexiste p).2 hp)

theorem Contenida.of_elegido (h : n.Contenida π f) (he : Elegido n n') : n'.Contenida π f :=
  h.of_campos he.cache he.marcos he.nombre he.mensajes fun _ => existe_of_map_eq he.procesos

end Relacion

section Desalojo

theorem reemplazar_mensajes (hlru : π.algoritmoReemplazoMmu = .lru) (v k p : ℕ) :
    (n.reemplazar π v k p).mensajes = n.mensajes ++
      [.escritura (n.nombre v).1 (n.nombre v).2
        (slice n.cache (k * π.tamanioPagina) π.tamanioPagina)] := by
  unfold reemplazar guardar
  rw [if_neg (by simp [hlru])]

theorem Contenida.reemplazar (h : n.Contenida π f) (hb : n.Bien π)
    (hlru : π.algoritmoReemplazoMmu = .lru) (hk : n.marcos k = some v)
    (hp : ∀ j, n.marcos j ≠ some p) : (n.reemplazar π v k p).Preparada π p k f := by
  have hmarcos := reemplazar_marcos (π := π) (n := n) v k p
  have hcache := reemplazar_cache (π := π) (n := n) v k p
  have hexiste : ∀ q, (n.reemplazar π v k p).existe q ↔ n.existe q := fun q => by simp [existe]
  have hv := hb.marcos.existe k v hk
  have hotro : ∀ j q, q ≠ p → (n.reemplazar π v k p).marcos j = some q →
      j ≠ k ∧ n.marcos j = some q := by
    intro j q hqp hj
    rw [hmarcos] at hj
    rcases eq_or_ne j k with rfl | hjk
    · rw [Function.update_self] at hj
      exact absurd (Option.some.inj hj).symm hqp
    · rw [Function.update_of_ne hjk] at hj
      exact ⟨hjk, hj⟩
  refine ⟨by rw [hmarcos, Function.update_self], ?_, ?_, ?_, ?_, ?_, ?_⟩
  · intro o ho
    rw [hcache, fill_inside _ _ _ ho]
  · intro j hj
    by_contra hjk
    rw [hmarcos, Function.update_of_ne hjk] at hj
    exact hp j hj
  · intro j q hqp hj o ho
    obtain ⟨hjk, hj'⟩ := hotro j q hqp hj
    rw [hcache, fill_block_other _ _ hjk ho, reemplazar_nombre]
    exact h.residente j q hj' o ho
  · intro j hlt hj o ho
    have hjk : j ≠ k := by
      rintro rfl
      rw [hmarcos, Function.update_self] at hj
      cases hj
    rw [hmarcos, Function.update_of_ne hjk] at hj
    rw [hcache, fill_block_other _ _ hjk ho]
    exact h.libre j hlt hj o ho
  · intro q hq hausente
    have hq' := (hexiste q).1 hq
    rw [Enviada, reemplazar_nombre, reemplazar_mensajes hlru, ultimaEscritura_append_escritura]
    rcases eq_or_ne q v with rfl | hqv
    · rw [if_pos ⟨rfl, rfl⟩]
      exact congrArg some (slice_congr fun o ho => by
        rw [Nat.zero_add]
        exact h.residente k q hk o ho)
    · rw [if_neg fun heq => hqv (hb.tablas.nombre_inj hq' hv (Prod.ext heq.1.symm heq.2.symm))]
      refine h.ausente q hq' fun j hj => ?_
      have hjk : j ≠ k := by
        rintro rfl
        rw [hk] at hj
        exact hqv (Option.some.inj hj).symm
      rcases hausente with rfl | hausente
      · exact hp j hj
      · exact hausente j (by rw [hmarcos, Function.update_of_ne hjk, hj])
  · intro nombre hno
    rw [reemplazar_nombre] at hno
    exact h.nueva nombre fun q hq => hno q ((hexiste q).2 hq)

theorem desalojarPara_preparada (h : n.Contenida π f) (hb : n.Bien π)
    (hlru : π.algoritmoReemplazoMmu = .lru) (hp : ∀ j, n.marcos j ≠ some p) :
    Spec (n.desalojarPara π pid p)
      (fun r => r.2.Preparada π p r.1 f ∧ MismasPaginas n r.2)
      (· = .candidatosVacios) := by
  refine (desalojarPara_spec hb pid p).mono (fun r hr => ?_) fun _ he => he
  obtain ⟨v, m, hd⟩ := hr
  refine ⟨?_, hd.paginas⟩
  have hk : m.marcos r.1 = some v := by rw [hd.elegida.marcos, hd.marco]
  rw [hd.eq]
  exact (h.of_elegido hd.elegida).reemplazar hd.bien hlru hk fun j => by
    rw [hd.elegida.marcos]
    exact hp j

theorem Preparada.contenida (h : n.Preparada π p k f) (hmarcos : n'.marcos = n.marcos)
    (hnombre : n'.nombre = n.nombre) (hguarda : n'.Guarda π f k (n.nombre p))
    (hcache : ∀ j o, j ≠ k → o < π.tamanioPagina →
      n'.cache (j * π.tamanioPagina + o) = n.cache (j * π.tamanioPagina + o))
    (hmensajes : ∀ nombre, n.Enviada π f nombre → n'.Enviada π f nombre)
    (hexiste : ∀ q, n'.existe q ↔ n.existe q ∨ q = p) : n'.Contenida π f := by
  refine ⟨?_, ?_, ?_, ?_⟩
  · intro j q hj
    rw [hmarcos] at hj
    rw [hnombre]
    rcases eq_or_ne q p with rfl | hqp
    · rw [h.unico j hj]
      exact hguarda
    · have hjk : j ≠ k := by
        rintro rfl
        rw [h.marco] at hj
        exact hqp (Option.some.inj hj).symm
      intro o ho
      rw [hcache j o hjk ho]
      exact h.residente j q hqp hj o ho
  · intro j hlt hj o ho
    rw [hmarcos] at hj
    have hjk : j ≠ k := by
      rintro rfl
      rw [h.marco] at hj
      cases hj
    rw [hcache j o hjk ho]
    exact h.libre j hlt hj o ho
  · intro q hq hfuera
    rw [hmarcos] at hfuera
    have hqp : q ≠ p := by
      rintro rfl
      exact hfuera k h.marco
    rw [hnombre]
    exact hmensajes _ (h.ausente q (((hexiste q).1 hq).resolve_right hqp) (Or.inr hfuera))
  · intro nombre hno
    rw [hnombre] at hno
    exact h.nueva nombre fun q hq => hno q ((hexiste q).2 (Or.inl hq))

end Desalojo

section Acceso

/-- SWAmP answers a read with the content last sent for the page. -/
def SwampFiel (π : Parametros) : Prop :=
  ∀ historia pid pagina contenido, ultimaEscritura pid pagina historia = some contenido →
    contenido.length = π.tamanioPagina → π.leerSwamp historia pid pagina = some contenido

theorem recuperar_contenida (h : n.Contenida π f) (hb : n.Bien π)
    (hlru : π.algoritmoReemplazoMmu = .lru) (hswamp : SwampFiel π) (hp : n.existe p)
    (hfuera : ∀ j, n.marcos j ≠ some p) :
    Spec (n.recuperar π p)
      (fun r => r.2.Contenida π f ∧ r.2.marcos r.1 = some p ∧ MismasPaginas n r.2)
      (· = .candidatosVacios) := by
  refine (desalojarPara_preparada h hb hlru hfuera).bind fun r hr => ?_
  obtain ⟨k, n₁⟩ := r
  obtain ⟨hprep, hpaginas⟩ := hr
  have hp₁ : n₁.existe p := (existe_of_map_eq hpaginas.procesos).2 hp
  have hleer : π.leerSwamp n₁.mensajes (n₁.nombre p).1 (n₁.nombre p).2 =
      some (slice (f (n₁.nombre p)) 0 π.tamanioPagina) :=
    hswamp _ _ _ _ (hprep.ausente p hp₁ (Or.inl rfl)) (length_slice _ _ _)
  simp only [hleer]
  refine ⟨hprep.contenida rfl rfl ?_ ?_ ?_ ?_, hprep.marco,
    ⟨hpaginas.nombre, hpaginas.proximoPtr, hpaginas.procesos⟩⟩
  · intro o ho
    refine (copy_inside n₁.cache _ _ (by rwa [length_slice])).trans ?_
    rw [getElem_slice, Nat.zero_add]
  · intro j o hjk ho
    exact copy_block_other _ 0 _ hjk (by rw [length_slice, Nat.zero_add]) ho
  · intro nombre henviada
    rw [Enviada, ultimaEscritura_append_lectura]
    exact henviada
  · intro q
    exact ⟨Or.inl, fun hq => hq.elim id fun heq => heq ▸ hp₁⟩

theorem traer_contenida (h : n.Contenida π f) (hb : n.Bien π)
    (hlru : π.algoritmoReemplazoMmu = .lru) (hswamp : SwampFiel π) (hp : n.existe p) :
    Spec (n.traer π p)
      (fun r => r.2.Contenida π f ∧ r.2.marcos r.1 = some p ∧ MismasPaginas n r.2)
      (· = .candidatosVacios) := by
  unfold traer
  split
  · next k hk => exact ⟨h, (marcoDe_some hk).2, ⟨rfl, rfl, rfl⟩⟩
  · next hnone =>
    exact recuperar_contenida h hb hlru hswamp hp fun j hj =>
      marcoDe_eq_none.1 hnone j (hb.marcos.lt j p hj) hj

theorem Contenida.marcar (h : n.Contenida π f) (esEscritura : Bool) (p : ℕ) :
    (n.marcar π esEscritura p).Contenida π f := by
  unfold Nucleo.marcar
  split <;> exact h.of_campos rfl rfl rfl rfl fun _ => Iff.rfl

theorem leer_plana (h : n.Contenida π f) (hb : n.Bien π) (hlru : π.algoritmoReemplazoMmu = .lru)
    (hswamp : SwampFiel π) (hp : n.existe p) {tamanio offset : ℕ}
    (hacceso : offset + tamanio ≤ π.tamanioPagina) :
    Spec (n.leer π p tamanio offset)
      (fun r => r.1 = some (slice (f (n.nombre p)) offset tamanio) ∧ r.2.Contenida π f)
      (· = .candidatosVacios) := by
  refine (traer_contenida h hb hlru hswamp hp).bind fun r hr => ?_
  obtain ⟨k, n₁⟩ := r
  obtain ⟨hcontenida, hmarco, hpaginas⟩ := hr
  simp only [alcance, if_pos hacceso]
  refine ⟨congrArg some (slice_congr fun o ho => ?_), hcontenida.marcar _ _⟩
  rw [Nat.add_assoc, ← show n₁.nombre = n.nombre from hpaginas.nombre]
  exact hcontenida.residente k p hmarco (offset + o) (by omega)

theorem Contenida.escrita (h : n.Contenida π f) (hb : n.Bien π) (hk : n.marcos k = some p)
    {buffer : List UInt8} {offset : ℕ} (hacceso : offset + buffer.length ≤ π.tamanioPagina) :
    Contenida π { n with cache := copy n.cache (k * π.tamanioPagina + offset) buffer }
      (Function.update f (n.nombre p) (copy (f (n.nombre p)) offset buffer)) := by
  have hp := hb.marcos.existe k p hk
  have hotra : ∀ q, n.existe q → q ≠ p → Function.update f (n.nombre p)
      (copy (f (n.nombre p)) offset buffer) (n.nombre q) = f (n.nombre q) :=
    fun q hq hqp => Function.update_of_ne (fun heq => hqp (hb.tablas.nombre_inj hq hp heq)) _ _
  refine ⟨?_, ?_, ?_, ?_⟩
  · intro j q hj o ho
    have hj' : n.marcos j = some q := hj
    rcases eq_or_ne q p with rfl | hqp
    · obtain rfl := hb.marcos.inj j k q hj' hk
      rw [Function.update_self]
      exact copy_shift offset buffer (h.residente j q hj' o ho)
    · have hjk : j ≠ k := by
        rintro rfl
        rw [hk] at hj'
        exact hqp (Option.some.inj hj').symm
      rw [hotra q (hb.marcos.existe j q hj') hqp]
      exact (copy_block_other _ _ _ hjk hacceso ho).trans (h.residente j q hj' o ho)
  · intro j hlt hj o ho
    have hj' : n.marcos j = none := hj
    have hjk : j ≠ k := by
      rintro rfl
      rw [hk] at hj'
      cases hj'
    exact (copy_block_other _ _ _ hjk hacceso ho).trans (h.libre j hlt hj' o ho)
  · intro q hq hfuera
    have hqp : q ≠ p := by
      rintro rfl
      exact hfuera k hk
    have henviada : n.Enviada π f (n.nombre q) := h.ausente q hq hfuera
    rw [Enviada, hotra q hq hqp]
    exact henviada
  · intro nombre hno o
    rw [Function.update_of_ne fun heq => hno p hp heq.symm]
    exact h.nueva nombre hno o

theorem escribir_plana (h : n.Contenida π f) (hb : n.Bien π) (ho : n.OrdenBien π)
    (hlru : π.algoritmoReemplazoMmu = .lru) (hswamp : SwampFiel π) (hp : n.existe p)
    {buffer : List UInt8} {offset : ℕ} (hacceso : offset + buffer.length ≤ π.tamanioPagina) :
    Spec (n.escribir π p buffer offset)
      (fun r => r.1 = 0 ∧ r.2.Contenida π
        (Function.update f (n.nombre p) (copy (f (n.nombre p)) offset buffer)))
      (· = .candidatosVacios) := by
  have hspec := (traer_contenida h hb hlru hswamp hp).and (traer_spec hb ho hp)
  refine (hspec.mono (fun _ hr => hr) fun _ he => he.1).bind fun r hr => ?_
  obtain ⟨k, n₁⟩ := r
  obtain ⟨⟨hcontenida, hmarco, hpaginas⟩, htraida⟩ := hr
  simp only [alcance, if_pos hacceso]
  refine ⟨rfl, ?_⟩
  rw [← show n₁.nombre = n.nombre from hpaginas.nombre]
  exact (hcontenida.escrita htraida.bien hmarco hacceso).marcar _ _

end Acceso

section Creacion

theorem Contenida.nombrar (h : n.Contenida π f) (hb : n.Bien π) (pid numero : ℤ) :
    (n.nombrar pid numero).Contenida π f := by
  have hnombre : ∀ q, n.existe q → (n.nombrar pid numero).nombre q = n.nombre q :=
    fun q hq => nombrar_nombre fun heq => no_existe_proximoPtr hb.tablas (heq ▸ hq)
  refine ⟨?_, h.libre, ?_, ?_⟩
  · intro k p hk
    rw [hnombre p (hb.marcos.existe k p hk)]
    exact h.residente k p hk
  · intro p hp hfuera
    rw [hnombre p hp]
    exact h.ausente p hp hfuera
  · intro nombre hno
    exact h.nueva nombre fun p hp => hnombre p hp ▸ hno p hp

theorem Contenida.ocuparLibre (h : n.Contenida π f) (hk : n.marcos k = none)
    (hlt : k < π.cantidadMarcos) (hp : ¬ n.existe p) (hfuera : ∀ j, n.marcos j ≠ some p) :
    Preparada π p k { n with marcos := Function.update n.marcos k (some p) } f := by
  have hotro : ∀ j q, q ≠ p → Function.update n.marcos k (some p) j = some q →
      n.marcos j = some q := by
    intro j q hqp hj
    rcases eq_or_ne j k with rfl | hjk
    · rw [Function.update_self] at hj
      exact absurd (Option.some.inj hj).symm hqp
    · rwa [Function.update_of_ne hjk] at hj
  refine ⟨Function.update_self _ _ _, h.libre k hlt hk, ?_, ?_, ?_, ?_, h.nueva⟩
  · intro j hj
    by_contra hjk
    exact hfuera j ((Function.update_of_ne hjk _ _).symm.trans hj)
  · exact fun j q hqp hj => h.residente j q (hotro j q hqp hj)
  · intro j hltj hj
    refine h.libre j hltj ?_
    rcases eq_or_ne j k with rfl | hjk
    · exact hk
    · exact (Function.update_of_ne hjk _ _).symm.trans hj
  · intro q hq hausente
    have hqp : q ≠ p := by
      rintro rfl
      exact hp hq
    refine h.ausente q hq fun j hj => hausente.resolve_left hqp j ?_
    have hjk : j ≠ k := by
      rintro rfl
      rw [hk] at hj
      cases hj
    exact (Function.update_of_ne hjk _ _).trans hj

theorem alojarNueva_preparada (h : n.Contenida π f) (hb : n.Bien π)
    (hlru : π.algoritmoReemplazoMmu = .lru) (hp : ¬ n.existe p) :
    Spec (n.alojarNueva π pid p)
      (fun r => r.2.Preparada π p r.1 f ∧ MismasPaginas n r.2) (· = .candidatosVacios) := by
  have hfuera : ∀ j, n.marcos j ≠ some p := fun j hj => hp (hb.marcos.existe j p hj)
  unfold alojarNueva
  split
  · next hpuede =>
    obtain ⟨k, hk⟩ : ∃ k, n.marcoLibre π = some k := by
      rw [puedeTomarMarco, Bool.and_eq_true] at hpuede
      exact Option.isSome_iff_exists.1 hpuede.1
    rw [hk]
    obtain ⟨hlt, hlibre⟩ := marcoLibre_some hk
    exact ⟨h.ocuparLibre hlibre hlt hp hfuera, ⟨rfl, rfl, rfl⟩⟩
  · exact desalojarPara_preparada h hb hlru hfuera

/-- A new page starts empty, as its array does. -/
theorem crear_plana (h : n.Contenida π f) (hb : n.Bien π)
    (hlru : π.algoritmoReemplazoMmu = .lru) (pid : ℤ) :
    Spec (n.crear π pid) (fun r => r.2.Contenida π f)
      (fun e => e = .candidatosVacios ∨ e = .operandoInexistente) := by
  unfold crear
  split
  · exact Or.inr rfl
  · next c hc =>
    obtain ⟨hcmem, hcpid⟩ := proceso_some hc
    have hcontenida := h.nombrar hb pid (c.paginas.length + 1)
    have hbien : (n.nombrar pid (c.paginas.length + 1)).Bien π := nombrar_bien hb
    have hnombre : (n.nombrar pid (c.paginas.length + 1)).nombre n.proximoPtr =
        (pid, (c.paginas.length : ℤ) + 1) := Function.update_self _ _ _
    have hnueva : ¬ (n.nombrar pid (c.paginas.length + 1)).existe n.proximoPtr :=
      no_existe_proximoPtr hb.tablas
    refine ((alojarNueva_preparada hcontenida hbien hlru hnueva).mono (fun _ hr => hr)
      fun e he => Or.inl he).bind fun r hr => ?_
    obtain ⟨k, n₁⟩ := r
    obtain ⟨hprep, hpaginas⟩ := hr
    have hvacia : ∀ o, f (pid, (c.paginas.length : ℤ) + 1) o = guion := by
      refine h.nueva _ fun q hq heq => ?_
      obtain ⟨d, hd, hqd⟩ := hq
      obtain ⟨i, hi, rfl⟩ := List.getElem_of_mem hqd
      rw [hb.tablas.nombre d hd i hi, Prod.mk.injEq] at heq
      obtain rfl : d = c :=
        List.inj_on_of_nodup_map hb.tablas.pids hd hcmem (heq.1.trans hcpid.symm)
      omega
    obtain ⟨d, hd, hdpid, -⟩ := exists_proceso_of_map_eq hpaginas.procesos.symm hcmem
    refine hprep.contenida (registrar_marcos) registrar_nombre ?_ ?_ ?_ ?_
    · intro o ho
      rw [registrar_cache, show n₁.nombre = _ from hpaginas.nombre, hnombre, hvacia]
      exact hprep.vacio o ho
    · intro j o _ _
      rw [registrar_cache]
    · intro nombre henviada
      rw [Enviada, registrar_mensajes]
      exact henviada
    · exact fun q => existe_registrar hd (hdpid.trans hcpid)

end Creacion

section Pasos

theorem Contenida.crearProceso (h : n.Contenida π f) (pid : ℤ) :
    (n.crearProceso pid).Contenida π f := by
  unfold Nucleo.crearProceso
  split
  · exact h
  · refine h.of_campos rfl rfl rfl rfl fun q => ?_
    simp [existe]

/-- One call answers as the arrays say, and changes them as they say. -/
theorem paso_plana (h : n.Contenida π f) (hb : n.Bien π) (ho : n.OrdenBien π)
    (hlru : π.algoritmoReemplazoMmu = .lru) (hswamp : SwampFiel π) {op : Operacion}
    (hop : EnPagina π.tamanioPagina op) :
    Spec (n.paso π op) (fun r => Plana.Responde op f r.1 ∧ r.2.Contenida π (f.tras op))
      (fun e => e = .candidatosVacios ∨ e = .operandoInexistente) := by
  have hbuscar : ∀ pid pagina, Spec (n.buscar pid pagina)
      (fun p => n.existe p ∧ n.nombre p = (pid, pagina))
      (fun e => e = .candidatosVacios ∨ e = .operandoInexistente) := fun pid pagina =>
    (buscar_spec pid pagina).mono (fun _ hp => hp) fun _ he => Or.inr he
  cases op with
  | createCarpincho pid => exact ⟨trivial, h.crearProceso pid⟩
  | createPagina pid => exact (crear_plana h hb hlru pid).bind fun r hr => ⟨trivial, hr⟩
  | leerEnPagina pid pagina tamanio offset =>
    refine (hbuscar pid pagina).bind fun p hp => ?_
    refine ((leer_plana h hb hlru hswamp hp.1 hop).mono (fun _ hr => hr) fun _ he =>
      Or.inl he).bind fun r hr => ?_
    rw [hp.2] at hr
    exact ⟨congrArg Resultado.bytes hr.1, hr.2⟩
  | escribirEnPagina pid pagina buffer offset =>
    refine (hbuscar pid pagina).bind fun p hp => ?_
    refine ((escribir_plana h hb ho hlru hswamp hp.1 hop).mono (fun _ hr => hr) fun _ he =>
      Or.inl he).bind fun r hr => ?_
    rw [hp.2] at hr
    exact ⟨congrArg Resultado.codigo hr.1, hr.2⟩

theorem inicial_contenida : inicial.Contenida π Plana.vacia :=
  ⟨fun k p hk => absurd hk (by simp [inicial]), fun _ _ _ _ _ => rfl,
    fun p hp => absurd hp (by rintro ⟨c, hc, -⟩; simp [inicial] at hc), fun _ _ _ => rfl⟩

theorem corrida_plana (hlru : π.algoritmoReemplazoMmu = .lru) (hswamp : SwampFiel π)
    {ops : List Operacion} (hops : ∀ op ∈ ops, Admisible op ∧ EnPagina π.tamanioPagina op) :
    Spec (run (paso π) ops inicial)
      (fun r => Allowed (fun op f => f.tras op) Plana.Responde ops Plana.vacia r.1)
      (fun e => e = .candidatosVacios ∨ e = .operandoInexistente) := by
  have hpaso : ∀ op n (f : Plana), (Admisible op ∧ EnPagina π.tamanioPagina op) →
      (n.Bien π ∧ n.OrdenBien π) ∧ n.Contenida π f →
      Spec (paso π op n) (fun r => Plana.Responde op f r.1 ∧
        (r.2.Bien π ∧ r.2.OrdenBien π) ∧ r.2.Contenida π (f.tras op))
        (fun e => e = .candidatosVacios ∨ e = .operandoInexistente) := by
    intro op n f hop h
    have hspec := paso_spec h.1.1 h.1.2 hop.1
    have hplana := paso_plana h.2 h.1.1 h.1.2 hlru hswamp hop.2
    exact (hspec.and hplana).mono (fun r hr => ⟨hr.2.1, hr.1, hr.2.2⟩) fun e he => he.2
  exact (run_refines hpaso ops _ _ hops
    ⟨⟨inicial_bien, inicial_ordenBien⟩, inicial_contenida⟩).mono (fun r hr => hr.1) fun _ he => he

end Pasos

end Nucleo

/-- Under LRU the paged memory answers as one array of bytes per page, in every run
that does not run out of candidates for a victim. -/
theorem lectura_ultima_escritura {E : Entorno}
    (hlru : E.config.algoritmoReemplazoMmu = .lru) (htlb : 0 < E.config.cantidaEntradasTlb)
    (hswamp : E.SwampFiel) (basura : ℕ → Pagina) (ops : List Operacion)
    (hops : ∀ op ∈ ops, Nucleo.Admisible op ∧ EnPagina E.config.tamanioPagina op) :
    Spec (run (paso E) ops (inicializarMemoria E.config basura))
      (fun r => Allowed (fun op f => f.tras op) Plana.Responde ops Plana.vacia r.1)
      (fun e => e = .candidatosVacios ∨ e = .operandoInexistente ∨ e = .desbordamiento) := by
  have hplana := Nucleo.corrida_plana (π := E.parametros) hlru hswamp hops
  refine ((corrida_sim htlb basura fun op hop => (hops op hop).1).spec hplana ?_).mono ?_ ?_
  · rintro e (rfl | rfl) he
    · cases he
    · cases he
  · rintro ⟨resultados, s⟩ ⟨⟨resultados', n⟩, ⟨hsalida, -⟩, hplana⟩
    exact hsalida ▸ hplana
  · rintro e ((he | he) | he)
    · exact Or.inl he
    · exact Or.inr (Or.inl he)
    · exact Or.inr (Or.inr he)

/-- Three pages in two frames: what was written to the first one comes back. -/
theorem lectura_ultima_escritura_desalojada :
    ∃ r, run (paso (entornoFiel (configChica .lru .lru)))
        [.createCarpincho 1, .createPagina 1, .escribirEnPagina 1 1 [65] 1, .createPagina 1,
          .createPagina 1, .leerEnPagina 1 1 2 0]
        (inicializarMemoria (configChica .lru .lru) fun _ => paginaNueva 0 0) = .ok r ∧
      Allowed (fun op f => f.tras op) Plana.Responde
        [.createCarpincho 1, .createPagina 1, .escribirEnPagina 1 1 [65] 1, .createPagina 1,
          .createPagina 1, .leerEnPagina 1 1 2 0] Plana.vacia r.1 := by
  have hspec := lectura_ultima_escritura (E := entornoFiel (configChica .lru .lru)) rfl (by decide)
    (entornoFiel_swampFiel _) (fun _ => paginaNueva 0 0)
    [.createCarpincho 1, .createPagina 1, .escribirEnPagina 1 1 [65] 1, .createPagina 1,
      .createPagina 1, .leerEnPagina 1 1 2 0]
    (by simp [Nucleo.Admisible, EnPagina, entornoFiel, configChica])
  obtain ⟨r, hr⟩ := exists_of_isOk (x := run (paso (entornoFiel (configChica .lru .lru)))
    [.createCarpincho 1, .createPagina 1, .escribirEnPagina 1 1 [65] 1, .createPagina 1,
      .createPagina 1, .leerEnPagina 1 1 2 0]
    (inicializarMemoria (configChica .lru .lru) fun _ => paginaNueva 0 0)) (by decide +kernel)
  exact ⟨r, hr, hspec.post_of_eq hr⟩

end Carpinchos.Memoria
