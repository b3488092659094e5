import DummyDrivers.Library.Handover
import DummyDrivers.V4l2.Driver
import DummyDrivers.V4l2.Interleaving
import DummyDrivers.V4l2.Ownership
import DummyDrivers.V4l2.Sessions
import DummyDrivers.V4l2.PlaneBounds
import DummyDrivers.V4l2.FrameSequence
import DummyDrivers.I2c.RegisterTrace
import DummyDrivers.Library.ModuleLife
import DummyDrivers.Fbdev.Lifecycle
import DummyDrivers.Fbdev.DeferredIo
import DummyDrivers.Fbview.Converter
import DummyDrivers.Fbview.Frame
import DummyDrivers.Fbview.Preview
import DummyDrivers.Fbcat.Dump
import DummyDrivers.Library.Loops
import DummyDrivers.Fbcat.Colours
import DummyDrivers.Fbcat.Rows
import DummyDrivers.Fbcat.Agreement
import DummyDrivers.FbStr.PutPixel
import DummyDrivers.FbStr.Drawing
import DummyDrivers.Chrdev.Scaffold
import DummyDrivers.Spi.Device
import DummyDrivers.Spi.Lifecycle
import DummyDrivers.Chrdev.Gpio
import DummyDrivers.Chrdev.Regulator
import DummyDrivers.Chrdev.Firmware
import DummyDrivers.Chrdev.Lifecycles
import DummyDrivers.Chrdev.Drm
import DummyDrivers.V4l2.Lifecycle
import DummyDrivers.Fbdev.DirtyArea
import DummyDrivers.Fbdev.DirtyColumns
import DummyDrivers.I2c.Addressing
import DummyDrivers.I2c.Reentry
import DummyDrivers.Fbview.Ansi
import DummyDrivers.Fbview.AnsiGrid
import DummyDrivers.Fbview.AnsiScale
import DummyDrivers.Fbview.AnsiScreen
import DummyDrivers.Fbview.Session
import DummyDrivers.Fbview.FullScale
import DummyDrivers.Fbdev.Palette
import DummyDrivers.FbStr.Font
import DummyDrivers.FbStr.PutString
import DummyDrivers.FbStr.TextBounds
import DummyDrivers.FbStr.TextPicture
import DummyDrivers.FbStr.TextFiles
import DummyDrivers.Library.Pointers
import DummyDrivers.Spi.Transfer
import DummyDrivers.Bus.Match
import DummyDrivers.Bus.Binding
import DummyDrivers.FbRectangle.Picture
import DummyDrivers.Net.Runs
import DummyDrivers.V4l2.Progress
import DummyDrivers.I2c.Batches
import DummyDrivers.Chrdev.Template
import DummyDrivers.Fbview.Main
import DummyDrivers.Fbdev.Shown
import DummyDrivers.FbStr.Main
