import Mathlib.Algebra.Group.Nat.Defs
import Mathlib.Logic.Function.Basic
import NrfExamples.Uart.AsyncAdapter

namespace NrfExamples
namespace Uart

open Reentrant AdapterProg

/-!
# The UART side of the bridge

`uart_cb` and `uart_init` of `main.c`, on top of the adapter.  A `uart_data_t`
is named by the address of its `data` array, so `CONTAINER_OF` is the identity;
its `len` is kept apart, in a table.  `live` holds the allocated ones.

As for the adapter, a section is a function on the state, and the programs put
the sections in order.  `bt_receive_cb` uses the same data.
-/

/-- The configuration.  `uart_init` passes 50 to the first `uart_rx_enable` and
`uart_cb` passes `UART_WAIT_FOR_RX` to the later ones.  A buffer has room for a
byte and a line feed, and its `len` can count up to `UART_BUF_SIZE`. -/
structure BridgeConfig where
  uartBufSize : Nat
  uartWaitForRx : Int
  firstWaitForRx : Int
  room : 1 < uartBufSize
  lenHolds : uartBufSize < 2 ^ 16

/-- The defaults of `Kconfig`. -/
def defaultConfig : BridgeConfig where
  uartBufSize := 40
  uartWaitForRx := 50000
  firstWaitForRx := 50
  room := by decide
  lenHolds := by decide

/-- The static data of `main.c` and of `uart_cb`, and the heap. -/
structure Bridge where
  len : Address -> Nat
  live : List Address
  fifoUartTxData : List Address
  fifoUartRxData : List Address
  abortedLen : Nat
  abortedBuf : Pointer
  disableReq : Bool
  uartWork : Bool

abbrev ENOMEM : Int := 12

namespace Bridge

/-- Before `main`. -/
def initial (len : Address -> Nat) : Bridge where
  len := len
  live := []
  fifoUartTxData := []
  fifoUartRxData := []
  abortedLen := 0
  abortedBuf := none
  disableReq := false
  uartWork := false

variable (bridge : Bridge)

/-- `buf->len = len`, where `len` is a `uint16_t`. -/
def setLen (buf : Address) (len : Nat) : Bridge :=
  { bridge with len := Function.update bridge.len buf (len % 2 ^ 16) }

/-- A successful `k_malloc`. -/
def allocate (buf : Address) : Bridge :=
  { bridge with live := buf :: bridge.live }

/-- `k_free` -/
def kFree (buf : Address) : Bridge :=
  { bridge with live := bridge.live.erase buf }

/-- `k_fifo_put(&fifo_uart_tx_data, buf)` -/
def putTx (buf : Address) : Bridge :=
  { bridge with fifoUartTxData := bridge.fifoUartTxData ++ [buf] }

/-- `k_fifo_get(&fifo_uart_tx_data, K_NO_WAIT)` -/
def getTx : Option Address × Bridge :=
  match bridge.fifoUartTxData with
  | [] => (none, bridge)
  | buf :: rest => (some buf, { bridge with fifoUartTxData := rest })

/-- The buffer that has been sent is freed; after an abort it is the one that
was aborted first, whatever address the last attempt started from. -/
def freeSent (buf : Address) : Bridge :=
  match bridge.abortedBuf with
  | some aborted => { bridge with abortedBuf := none, abortedLen := 0 }.kFree aborted
  | none => bridge.kFree buf

/-- `UART_TX_DONE` up to `uart_tx`, with the buffer to send next. -/
def txDone (buf : Pointer) (len : Nat) : Option Address × Bridge :=
  match buf with
  | none => (none, bridge)
  | some buf => if len = 0 then (none, bridge) else (bridge.freeSent buf).getTx

/-- Without an abort it is the buffer that has been sent that is freed. -/
theorem txDone_of_notAborted (notAborted : bridge.abortedBuf = none) (sent : Address) {len : Nat}
    (some : len ≠ 0) : bridge.txDone (.some sent) len = (bridge.kFree sent).getTx := by
  simp [txDone, freeSent, some, notAborted]

theorem getTx_nil (empty : bridge.fifoUartTxData = []) : bridge.getTx = (none, bridge) := by
  simp [getTx, empty]

theorem getTx_cons {buf : Address} {rest : List Address}
    (queue : bridge.fifoUartTxData = buf :: rest) :
    bridge.getTx = (some buf, { bridge with fifoUartTxData := rest }) := by
  simp [getTx, queue]

/-- `UART_TX_ABORTED` up to `uart_tx`; `aborted_len` is a `size_t` of 32 bits. -/
def txAborted (buf : Pointer) (len : Nat) : Bridge :=
  { bridge with
    abortedBuf := bridge.abortedBuf.or buf
    abortedLen := (bridge.abortedLen + len) % 2 ^ 32 }

/-- `buf->len - aborted_len`, as a `size_t`. -/
def remainingLen (buf : Address) : Nat :=
  (bridge.len buf + (2 ^ 32 - bridge.abortedLen)) % 2 ^ 32

/-- `UART_RX_BUF_RELEASED` -/
def rxBufReleased (buf : Address) : Bridge :=
  if 0 < bridge.len buf then
    { bridge with fifoUartRxData := bridge.fifoUartRxData ++ [buf] }
  else bridge.kFree buf

/-- `UART_RX_DISABLED` up to `k_malloc`. -/
def rxDisabled : Bridge :=
  { bridge with disableReq := false }

/-- `k_work_reschedule(&uart_work, UART_WAIT_FOR_BUF_DELAY)` -/
def reschedule : Bridge :=
  { bridge with uartWork := true }

end Bridge

/-- The bytes that end a line. -/
def endsLine (byte : UInt8) : Bool :=
  byte = 10 || byte = 13

namespace World

/-- A section on the client's data. -/
def onApp {A : Type} (run : Bridge -> A × Bridge) (world : World Bridge) : A × World Bridge :=
  ((run world.app).1, { world with app := (run world.app).2 })

def mapApp (run : Bridge -> Bridge) (world : World Bridge) : World Bridge :=
  { world with app := run world.app }

/-- `UART_RX_RDY` up to `uart_rx_disable`, which is called if the result is true. -/
def rxRdy (buf : Address) (count : Nat) (world : World Bridge) : Bool × World Bridge :=
  let world := world.mapApp fun bridge => bridge.setLen buf (bridge.len buf + count)
  if world.app.disableReq then (false, world)
  else if endsLine (world.memory buf.block (buf.offset + world.app.len buf - 1)) then
    (true, world.mapApp fun bridge => { bridge with disableReq := true })
  else (false, world)

@[simp] theorem rxRdy_adapter (buf : Address) (count : Nat) (world : World Bridge) :
    (world.rxRdy buf count).2.adapter = world.adapter := by
  unfold rxRdy
  dsimp only
  split
  · rfl
  · split <;> rfl

end World

/-- `k_malloc(sizeof(struct uart_data_t))` -/
def kMalloc : AdapterProg Bridge Pointer := do
  let block <- (ask .kMalloc : AdapterProg Bridge (Option Nat))
  match block with
  | none => pure none
  | some block => do
      modify (World.mapApp fun bridge => bridge.allocate ⟨block, 0⟩)
      pure (some ⟨block, 0⟩)

/-- `uart_cb` -/
def uartCb (cfg : BridgeConfig) (evt : UartEvent) : AdapterProg Bridge Unit :=
  match evt with
  | .txDone buf len => do
      let next <- perform (World.onApp fun bridge => bridge.txDone buf len)
      match next with
      | none => pure ()
      | some buf => do
          let len <- get fun world => world.app.len buf
          let _ <- apiCall (.tx (some buf) len sysForeverMs)
  | .rxRdy buf _ len =>
      match buf with
      | none => pure ()
      | some buf => do
          let disable <- perform (World.rxRdy buf len)
          if disable = true then
            let _ <- apiCall .rxDisable
  | .rxDisabled => do
      modify (World.mapApp Bridge.rxDisabled)
      let buf <- kMalloc
      match buf with
      | none => modify (World.mapApp Bridge.reschedule)
      | some buf => do
          modify (World.mapApp fun bridge => bridge.setLen buf 0)
          let _ <- apiCall (.rxEnable (some buf) cfg.uartBufSize cfg.uartWaitForRx)
  | .rxBufRequest => do
      let buf <- kMalloc
      match buf with
      | none => pure ()
      | some buf => do
          modify (World.mapApp fun bridge => bridge.setLen buf 0)
          let _ <- apiCall (.rxBufRsp (some buf) cfg.uartBufSize)
  | .rxBufReleased buf =>
      match buf with
      | none => pure ()
      | some buf => modify (World.mapApp fun bridge => bridge.rxBufReleased buf)
  | .txAborted buf len => do
      modify (World.mapApp fun bridge => bridge.txAborted buf len)
      let bridge <- get World.app
      match bridge.abortedBuf with
      | none => pure ()
      | some buf => do
          let _ <- apiCall (.tx (some { buf with offset := buf.offset + bridge.abortedLen })
            (bridge.remainingLen buf) sysForeverMs)
  | .rxStopped _ => pure ()

/-- What `snprintf` prints. -/
def welcome : List UInt8 :=
  "Starting Nordic UART service example\r\n".toList.map fun char => UInt8.ofNat char.toNat

theorem welcome_length : welcome.length = 38 := rfl

/-- What `snprintf` stores: as much as there is room for, and a NUL. -/
def printed (size : Nat) : List UInt8 :=
  welcome.take (size - 1) ++ [0]

/-- The end of `uart_init`: the welcome message is sent and reception enabled.
Only `rx` is freed at the very end; the other buffer is left to `uart_cb`. -/
def uartInitEnable (cfg : BridgeConfig) (rx tx : Address) : AdapterProg Bridge Int := do
  let len <- get fun world => world.app.len tx
  let err <- apiCall (.tx (some tx) len sysForeverMs)
  if err ≠ 0 then do
    modify (World.mapApp fun bridge => (bridge.kFree rx).kFree tx)
    pure err
  else do
    let err <- apiCall (.rxEnable (some rx) cfg.uartBufSize cfg.firstWaitForRx)
    if err ≠ 0 then modify (World.mapApp fun bridge => bridge.kFree rx)
    pure err

/-- `uart_init`, with a device that is ready, and without USB and line control.
The adapter has been initialised and `uart_cb` set. -/
def uartInit (cfg : BridgeConfig) : AdapterProg Bridge Int := do
  let rx <- kMalloc
  match rx with
  | none => pure (-ENOMEM)
  | some rx => do
      modify (World.mapApp fun bridge => bridge.setLen rx 0)
      let tx <- kMalloc
      match tx with
      | none => do
          modify (World.mapApp fun bridge => bridge.kFree rx)
          pure (-ENOMEM)
      | some tx => do
          modify fun world => world.storeBytes (some tx) (printed cfg.uartBufSize)
          if cfg.uartBufSize ≤ welcome.length then do
            modify (World.mapApp fun bridge => (bridge.kFree rx).kFree tx)
            pure (-ENOMEM)
          else do
            modify (World.mapApp fun bridge => bridge.setLen tx welcome.length)
            uartInitEnable cfg rx tx

/-- `main` up to where the interrupts take over; after an error nothing more
happens. -/
def bridgeMain (cfg : BridgeConfig) : AdapterProg Bridge Unit := do
  let err <- uartInit cfg
  if err = 0 then environment

end Uart
end NrfExamples
