import Carpinchos.Library.Runs
import Carpinchos.Memoria.Coherencia
import Carpinchos.Memoria.TransparenciaTlb
import Carpinchos.Memoria.Plana
import Carpinchos.Memoria.CopiaSwamp
import Carpinchos.Memoria.NucleoInvariante
import Carpinchos.Kernel.SemaforoSeguro
import Carpinchos.Library.Queues
import Carpinchos.Kernel.Despertar
import Carpinchos.Kernel.Dialogo
import Carpinchos.Memoria.Rechazo
import Carpinchos.Memoria.Huerfanos
import Carpinchos.Memoria.Numeracion
import Carpinchos.Memoria.Tope
import Carpinchos.Memoria.Aislamiento
import Carpinchos.Conexion.Hilos
import Carpinchos.Conexion.Resultados
import Carpinchos.Conexion.Formato
import Carpinchos.Swamp.Contenido
import Carpinchos.Swamp.Tienda
import Carpinchos.Swamp.Concesiones
import Carpinchos.Swamp.AsignacionFija
import Carpinchos.Sistema.CacheExclusiva
import Carpinchos.Memoria.NucleoAislamiento
import Carpinchos.Library.Tiling
import Carpinchos.Memoria.HeapEnOrden
import Carpinchos.Memoria.Aceptacion
import Carpinchos.Memoria.Reloj
import Carpinchos.Memoria.Recencia
import Carpinchos.Memoria.Fallas
import Carpinchos.Memoria.Rango
import Carpinchos.Memoria.Ocupacion
import Carpinchos.Memoria.Pasos
import Carpinchos.Memoria.Nombres
import Carpinchos.Memoria.Plan
import Carpinchos.Swamp.Contabilidad
import Carpinchos.Swamp.Espacio
import Carpinchos.Swamp.Vecinos
import Carpinchos.Memoria.Reparacion
import Carpinchos.Memoria.LecturaFallida
import Carpinchos.Memoria.Estadistica
import Carpinchos.Memoria.Cambios
import Carpinchos.Memoria.PasoTlb
import Carpinchos.Memoria.TlbLru
import Carpinchos.Memoria.TlbFifo
import Carpinchos.Memoria.EnFila
import Carpinchos.Memoria.Margen
import Carpinchos.Memoria.Ubicacion
import Carpinchos.Swamp.Permisos
import Carpinchos.Kernel.Destruccion
import Carpinchos.Library.Selection
import Carpinchos.Kernel.Estimacion
import Carpinchos.Kernel.Respuesta
import Carpinchos.Conexion.Cliente
import Carpinchos.Kernel.Detector
import Carpinchos.Kernel.Pasada
import Carpinchos.Memoria.Cuadrante
import Carpinchos.Memoria.Manecillas
import Carpinchos.Memoria.Puntual
import Carpinchos.Library.Parties
import Carpinchos.Memoria.Solitario
import Carpinchos.Memoria.Reflejo
import Carpinchos.Memoria.Convivencia
import Carpinchos.Memoria.Persistencia
import Carpinchos.Memoria.Pila
import Carpinchos.Sistema.Recorrido
import Carpinchos.Kernel.Rafagas
import Carpinchos.Kernel.Lugares
import Carpinchos.Kernel.Esperas
