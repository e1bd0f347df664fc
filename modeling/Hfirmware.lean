import Hfirmware.Audio.BluetoothRuns
import Hfirmware.Audio.EchoPairing
import Hfirmware.Audio.Microphone
import Hfirmware.Audio.Recorder
import Hfirmware.Audio.RecordingFile
import Hfirmware.Bluetooth.A2dpOwnership
import Hfirmware.Bluetooth.A2dpStreams
import Hfirmware.Bluetooth.AppFsm
import Hfirmware.Bluetooth.AvrcpVolume
import Hfirmware.Bluetooth.H4Framing
import Hfirmware.Bluetooth.HfpUplink
import Hfirmware.Bluetooth.Unpairing
import Hfirmware.Config.FailedWrite
import Hfirmware.Config.FlashRange
import Hfirmware.Dma.Exclusive
import Hfirmware.Dma.I2s
import Hfirmware.Drvhal.Adc
import Hfirmware.Drvhal.Aec
import Hfirmware.Drvhal.Ans
import Hfirmware.Drvhal.Fft
import Hfirmware.Drvhal.PowerButton
import Hfirmware.Drvhal.SdCard
import Hfirmware.Kernel.Malloc
import Hfirmware.Kernel.StaleFree
import Hfirmware.Player.FmScan
import Hfirmware.Player.Mp3Window
import Hfirmware.Player.Playlist
import Hfirmware.System.ButtonHold
import Hfirmware.System.ButtonPress
import Hfirmware.System.ButtonTimer
import Hfirmware.System.Led
import Hfirmware.System.Listener
import Hfirmware.System.PowerOff
import Hfirmware.Usb.AudioInterface
import Hfirmware.Usb.BulkBounds
import Hfirmware.Usb.HostEnumeration
import Hfirmware.Usb.HostStatus
import Hfirmware.Usb.PlugDetection
import Hfirmware.Usb.WriteErrors
