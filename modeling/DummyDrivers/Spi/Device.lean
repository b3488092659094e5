import DummyDrivers.Chrdev.Scaffold

/-! The SPI driver: the registration of its controller with one device on the bus, and the
unload path.
-/

namespace DummyDrivers.Spi

open DummyDrivers.Chrdev

/-- What the driver acquires for its subsystem. The controller and the device on its bus
are those of `devm_spi_register_controller` and `spi_new_device`; unregistering the
controller removes the device on its bus.
-/
inductive SpiResource where
  | host
  | buf
  | controller
  | spidev
  deriving DecidableEq, Repr

/-- The results of the kernel calls of one load attempt, in the order they are made. -/
structure Calls where
  allocChrdevRegion : KernelCall
  classCreate : KernelCall
  deviceCreate : KernelCall
  devmSpiAllocHost : KernelCall
  devmKmalloc : KernelCall
  devmSpiRegisterController : KernelCall
  spiNewDevice : KernelCall

/-- The labels `exit_free_dev`, `exit_free_class` and `exit_free_dev_num` return whatever
`ret` holds when they are reached.
-/
def exitFreeDevNum (ret : Int) (w : World SpiResource) : Int × World SpiResource :=
  freeDevNum ret w

def exitFreeClass (ret : Int) (w : World SpiResource) : Int × World SpiResource :=
  freeClass ret w

def exitFreeDev (ret : Int) (w : World SpiResource) : Int × World SpiResource := freeDev ret w

def dummySpiRegister (calls : Calls) (w : World SpiResource) : Int × World SpiResource :=
  let ret := calls.allocChrdevRegion.ret
  if ret ≠ 0 then
    (ret, w)
  else
    let w := w.acquire .chrdevRegion
    if calls.classCreate.failed then
      exitFreeDevNum ret w
    else
      let w := w.acquire .deviceClass
      if calls.deviceCreate.failed then
        exitFreeClass ret w
      else
        let w := w.acquire .device
        if calls.devmSpiAllocHost.failed then
          exitFreeDev ret w
        else
          let w := w.manage .host
          if calls.devmKmalloc.failed then
            -- The source returns here without going to a label.
            (-enomem, w)
          else
            let w := w.manage .buf
            let ret := calls.devmSpiRegisterController.ret
            if ret < 0 then
              exitFreeDev ret w
            else
              let w := w.manage .controller
              if calls.spiNewDevice.failed then exitFreeDev ret w else (0, w.manage .spidev)

def dummySpiUnregister (w : World SpiResource) : World SpiResource := unregister w

end DummyDrivers.Spi
